import AgentRoom.Library.Telling
import AgentRoom.Listing.Transactions

namespace AgentRoom.Listing

open Library
open PrivateRooms (PrivateRoomListingSaveOutcome)

abbrev ListingSession := Session ListingKey ListingRow ListingWork

def Lists (rows : ListingRows) (catalogId : RoomCatalogId) (owner : PrincipalId) : Prop :=
  isListed rows catalogId = true ∧ isActiveOf rows catalogId owner = true

-- Every principal owns at most one active room that is listed.
def SingleListing (rows : ListingRows) : Prop :=
  ∀ owner room other, Lists rows room owner → Lists rows other owner → room = other

def OwnedBy (rows : ListingRows) (catalogId : RoomCatalogId) (owner : PrincipalId) : Prop :=
  ∃ row, rows.lookup (.catalog catalogId) = some row ∧ row.ownerPrincipalId = some owner

section

variable {rows : ListingRows} {catalogId : RoomCatalogId} {owner : PrincipalId}

theorem listed_rooms_mem : catalogId ∈ listedRoomsOfOwner rows owner ↔ Lists rows catalogId owner := by
  unfold listedRoomsOfOwner
  rw [List.mem_filterMap]
  constructor
  · rintro ⟨⟨key, row⟩, there, picked⟩
    cases key with
    | listing id =>
      by_cases fits : (row.settings.listed && isActiveOf rows id owner) = true
      · simp only [if_pos fits, Option.some.injEq] at picked
        subst picked
        obtain ⟨listed, active⟩ := (Bool.and_eq_true ..).mp fits
        have found : rows.lookup (.listing id) = some row := AList.mem_lookup_iff.mpr there
        exact ⟨by rw [isListed, found]; exact listed, active⟩
      · simp only [if_neg fits] at picked
        cases picked
    | principal id => cases picked
    | catalog id => cases picked
    | state id => cases picked
  · rintro ⟨listed, active⟩
    obtain ⟨record, found, on⟩ := (Option.any_eq_true ..).mp listed
    exact ⟨⟨.listing catalogId, record⟩, AList.mem_lookup_iff.mp found, by simp [on, active]⟩

theorem single_owner (other : PrincipalId) (active : isActiveOf rows catalogId owner = true) (owned : OwnedBy rows catalogId other) :
    owner = other := by
  obtain ⟨row, found, fits⟩ := (Option.any_eq_true ..).mp active
  obtain ⟨row', found', mine⟩ := owned
  cases found.symm.trans found'
  exact Option.some.inj ((of_decide_eq_true fits).1.symm.trans mine)

end

section

variable (rows : ListingRows) (session : ListingSession) (catalogId : RoomCatalogId) (owner : PrincipalId)

def Cleared : Prop := session.Holds (.principal owner) .update ∧ ∀ other, Lists rows other owner → other = catalogId

structure FitsListing : Prop where
  only : ∀ key ∈ session.writes, key = .listing catalogId
  listed : ∀ record, session.writes.lookup (.listing catalogId) = some record → record.settings.listed = true →
    session.Holds (.catalog catalogId) .share ∧ Cleared rows session catalogId owner ∧ OwnedBy rows catalogId owner

structure FitsCreation : Prop where
  only : ∀ key ∈ session.writes, key = .catalog catalogId ∨ key = .state catalogId ∨ key = .listing catalogId
  catalog : ∀ row, session.writes.lookup (.catalog catalogId) = some row →
    row.ownerPrincipalId = some owner ∧ session.Holds (.catalog catalogId) .update ∧ Cleared rows session catalogId owner
  listing : .listing catalogId ∈ session.writes → .catalog catalogId ∈ session.writes

def Transferable : Prop :=
  session.Holds (.catalog catalogId) .noKeyUpdate ∧ (isListed rows catalogId = false ∨ Cleared rows session catalogId owner)

structure FitsTransfer : Prop where
  only : ∀ key ∈ session.writes, key = .state catalogId ∨ key = .catalog catalogId
  catalog : ∀ row, session.writes.lookup (.catalog catalogId) = some row →
    row.ownerPrincipalId = some owner ∧ Transferable rows session catalogId owner

structure FitsArchive : Prop where
  listing : ∀ id, .listing id ∉ session.writes
  catalog : ∀ id row, session.writes.lookup (.catalog id) = some row → row.status = .archived

def Fits : Prop := match session.purpose with
  | .saveListing catalogId owner => FitsListing rows session catalogId owner
  | .createListedRoom catalogId owner => FitsCreation rows session catalogId owner
  | .saveTransferredRoom catalogId owner => FitsTransfer rows session catalogId owner
  | .archive => FitsArchive session

section

variable {rows session catalogId owner}

theorem fits_listing (purpose : session.purpose = .saveListing catalogId owner) :
    Fits rows session ↔ FitsListing rows session catalogId owner := by rw [Fits, purpose]

theorem fits_creation (purpose : session.purpose = .createListedRoom catalogId owner) :
    Fits rows session ↔ FitsCreation rows session catalogId owner := by rw [Fits, purpose]

theorem fits_transfer (purpose : session.purpose = .saveTransferredRoom catalogId owner) :
    Fits rows session ↔ FitsTransfer rows session catalogId owner := by rw [Fits, purpose]

theorem fits_archive (purpose : session.purpose = .archive) : Fits rows session ↔ FitsArchive session := by rw [Fits, purpose]

end

structure Warranted : Prop where
  lists : ∀ room principal, Lists (session.view rows) room principal → Lists rows room principal ∨
    (session.Holds (.principal principal) .update ∧ ∀ other, Lists (session.view rows) other principal → other = room)
  listed : ∀ room, isListed (session.view rows) room = true → isListed rows room = true ∨
    ∃ mode, session.Holds (.catalog room) mode ∧ mode.conflicts .noKeyUpdate = true

theorem view_listed (absent : .listing room ∉ session.writes) : isListed (session.view rows) room = isListed rows room := by
  rw [isListed, isListed, session.view_unwritten rows _ absent]

variable {room : RoomCatalogId}

theorem view_active (principal : PrincipalId) (absent : .catalog room ∉ session.writes) :
    isActiveOf (session.view rows) room principal = isActiveOf rows room principal := by
  rw [isActiveOf, isActiveOf, session.view_unwritten rows _ absent]

theorem view_lists (listing : .listing room ∉ session.writes)
    (catalog : .catalog room ∉ session.writes) : Lists (session.view rows) room principal ↔ Lists rows room principal := by
  rw [Lists, Lists, view_listed rows session listing, view_active rows session principal catalog]

theorem listing_elsewhere (fits : FitsListing rows session catalogId owner) (apart : room ≠ catalogId)
    : Lists (session.view rows) room principal ↔ Lists rows room principal := by
  refine view_lists rows session (fun written => ?_) fun written => ?_
  · cases fits.only _ written
    exact apart rfl
  · cases fits.only _ written

theorem creation_elsewhere (fits : FitsCreation rows session catalogId owner) (room : RoomCatalogId) (apart : room ≠ catalogId)
    (principal : PrincipalId) : Lists (session.view rows) room principal ↔ Lists rows room principal := by
  refine view_lists rows session (fun written => ?_) fun written => ?_
  · rcases fits.only _ written with same | same | same
    · cases same
    · cases same
    · cases same
      exact apart rfl
  · rcases fits.only _ written with same | same | same
    · cases same
      exact apart rfl
    · cases same
    · cases same

theorem transfer_elsewhere (fits : FitsTransfer rows session catalogId owner) (room : RoomCatalogId) (apart : room ≠ catalogId)
    (principal : PrincipalId) : Lists (session.view rows) room principal ↔ Lists rows room principal := by
  refine view_lists rows session (fun written => ?_) fun written => ?_
  · rcases fits.only _ written with same | same <;> cases same
  · rcases fits.only _ written with same | same
    · cases same
    · cases same
      exact apart rfl

theorem cleared_lists (cleared : Cleared rows session catalogId owner)
    (elsewhere : ∀ room, room ≠ catalogId → (Lists (session.view rows) room owner ↔ Lists rows room owner)) :
    session.Holds (.principal owner) .update ∧ ∀ other, Lists (session.view rows) other owner → other = catalogId := by
  refine ⟨cleared.1, fun other lists => ?_⟩
  by_cases same : other = catalogId
  · exact same
  · exact cleared.2 other ((elsewhere other same).mp lists)

theorem listing_warranted (fits : FitsListing rows session catalogId owner) : Warranted rows session := by
  have unchanged : .catalog catalogId ∉ session.writes := fun written => by cases fits.only _ written
  constructor
  · intro room principal lists
    by_cases same : room = catalogId
    · subst same
      by_cases written : .listing room ∈ session.writes
      · obtain ⟨record, found⟩ := Option.isSome_iff_exists.mp (AList.lookup_isSome.mpr written)
        have listed := lists.1
        rw [isListed, session.view_written rows _ record found] at listed
        obtain ⟨_, cleared, owned⟩ := fits.listed record found listed
        have active := lists.2
        rw [view_active rows session principal unchanged] at active
        obtain rfl := single_owner owner active owned
        exact .inr (cleared_lists rows session room principal cleared fun other apart =>
          listing_elsewhere rows session room principal fits apart)
      · exact .inl ((view_lists rows session written unchanged).mp lists)
    · exact .inl ((listing_elsewhere rows session catalogId owner fits same).mp lists)
  · intro room listed
    by_cases written : .listing room ∈ session.writes
    · cases fits.only _ written
      obtain ⟨record, found⟩ := Option.isSome_iff_exists.mp (AList.lookup_isSome.mpr written)
      rw [isListed, session.view_written rows _ record found] at listed
      exact .inr ⟨.share, (fits.listed record found listed).1, rfl⟩
    · exact .inl (view_listed rows session written ▸ listed)

theorem creation_warranted (fits : FitsCreation rows session catalogId owner) : Warranted rows session := by
  have elsewhere := creation_elsewhere rows session catalogId owner fits
  by_cases entered : .catalog catalogId ∈ session.writes
  · obtain ⟨row, found⟩ := Option.isSome_iff_exists.mp (AList.lookup_isSome.mpr entered)
    obtain ⟨mine, holds, cleared⟩ := fits.catalog row found
    constructor
    · intro room principal lists
      by_cases same : room = catalogId
      · subst same
        obtain rfl := single_owner owner lists.2 ⟨row, session.view_written rows _ row found, mine⟩
        exact .inr (cleared_lists rows session room principal cleared fun other apart => elsewhere other apart principal)
      · exact .inl ((elsewhere room same principal).mp lists)
    · intro room listed
      by_cases written : .listing room ∈ session.writes
      · rcases fits.only _ written with same | same | same
        · cases same
        · cases same
        · cases same
          exact .inr ⟨.update, holds, rfl⟩
      · exact .inl (view_listed rows session written ▸ listed)
  · have nothing : .listing catalogId ∉ session.writes := fun written => entered (fits.listing written)
    constructor
    · intro room principal lists
      by_cases same : room = catalogId
      · subst same
        exact .inl ((view_lists rows session nothing entered).mp lists)
      · exact .inl ((elsewhere room same principal).mp lists)
    · intro room listed
      refine .inl (view_listed rows session (fun written => ?_) ▸ listed)
      rcases fits.only _ written with same | same | same
      · cases same
      · cases same
      · cases same
        exact nothing written

theorem transfer_warranted (fits : FitsTransfer rows session catalogId owner) : Warranted rows session := by
  have elsewhere := transfer_elsewhere rows session catalogId owner fits
  have unlisted : ∀ room, .listing room ∉ session.writes := fun room written => by rcases fits.only _ written with same | same <;> cases same
  constructor
  · intro room principal lists
    by_cases same : room = catalogId
    · subst same
      by_cases entered : .catalog room ∈ session.writes
      · obtain ⟨row, found⟩ := Option.isSome_iff_exists.mp (AList.lookup_isSome.mpr entered)
        obtain ⟨mine, _, free⟩ := fits.catalog row found
        obtain rfl := single_owner owner lists.2 ⟨row, session.view_written rows _ row found, mine⟩
        rcases free with private' | cleared
        · have listed := view_listed rows session (unlisted room) ▸ lists.1
          cases listed.symm.trans private'
        · exact .inr (cleared_lists rows session room principal cleared fun other apart => elsewhere other apart principal)
      · exact .inl ((view_lists rows session (unlisted room) entered).mp lists)
    · exact .inl ((elsewhere room same principal).mp lists)
  · exact fun room listed => .inl (view_listed rows session (unlisted room) ▸ listed)

theorem archive_warranted (fits : FitsArchive session) : Warranted rows session := by
  constructor
  · intro room principal lists
    by_cases entered : .catalog room ∈ session.writes
    · obtain ⟨row, found⟩ := Option.isSome_iff_exists.mp (AList.lookup_isSome.mpr entered)
      have active := lists.2
      rw [isActiveOf, session.view_written rows _ row found] at active
      have status := (of_decide_eq_true active).2
      cases status.symm.trans (fits.catalog room row found)
    · exact .inl ((view_lists rows session (fits.listing room) entered).mp lists)
  · exact fun room listed => .inl (view_listed rows session (fits.listing room) ▸ listed)

theorem fits_warranted (fits : Fits rows session) : Warranted rows session := by
  unfold Fits at fits
  split at fits
  · exact listing_warranted rows session _ _ fits
  · exact creation_warranted rows session _ _ fits
  · exact transfer_warranted rows session _ _ fits
  · exact archive_warranted rows session fits

structure RowsKept (rows next : ListingRows) (session : ListingSession) : Prop where
  guarded : ∀ key mode, session.Holds key mode → mode.guards = true → next.lookup key = rows.lookup key
  cleared : ∀ principal, session.Holds (.principal principal) .update → ∀ room, Lists next room principal → Lists rows room principal
  unlisted : ∀ room, session.Holds (.catalog room) .noKeyUpdate → isListed next room = true → isListed rows room = true

theorem rows_kept_refl : RowsKept rows rows session := ⟨fun _ _ _ _ => rfl, fun _ _ _ lists => lists, fun _ _ listed => listed⟩

variable {next : ListingRows} {session' : ListingSession}

section

variable (kept : RowsKept rows next session)
include kept

theorem cleared_kept (locks : session.locks ⊆ session'.locks)
    (cleared : Cleared rows session catalogId owner) : Cleared next session' catalogId owner :=
  ⟨locks cleared.1, fun other lists => cleared.2 other (kept.cleared owner cleared.1 other lists)⟩

theorem owned_kept (holds : session.Holds (.catalog catalogId) .share)
    (owned : OwnedBy rows catalogId owner) : OwnedBy next catalogId owner := by
  obtain ⟨row, found, mine⟩ := owned
  exact ⟨row, (kept.guarded _ _ holds rfl).trans found, mine⟩

theorem transferable_kept (locks : session.locks ⊆ session'.locks)
    (free : Transferable rows session catalogId owner) : Transferable next session' catalogId owner := by
  obtain ⟨holds, private' | cleared⟩ := free
  · refine ⟨locks holds, .inl (Bool.eq_false_iff.mpr fun listed => ?_)⟩
    have before := kept.unlisted catalogId holds listed
    cases before.symm.trans private'
  · exact ⟨locks holds, .inr (cleared_kept rows session catalogId owner kept locks cleared)⟩

theorem fits_kept (purpose : session'.purpose = session.purpose)
    (locks : session.locks ⊆ session'.locks) (writes : session'.writes = session.writes) (fits : Fits rows session) :
    Fits next session' := by
  unfold Fits at fits ⊢
  rw [purpose]
  split at fits
  · refine ⟨writes ▸ fits.only, fun record found listed => ?_⟩
    obtain ⟨holds, cleared, owned⟩ := fits.listed record (writes ▸ found) listed
    exact ⟨locks holds, cleared_kept rows session _ _ kept locks cleared, owned_kept rows session _ _ kept holds owned⟩
  · refine ⟨writes ▸ fits.only, fun row found => ?_, writes ▸ fits.listing⟩
    obtain ⟨mine, holds, cleared⟩ := fits.catalog row (writes ▸ found)
    exact ⟨mine, locks holds, cleared_kept rows session _ _ kept locks cleared⟩
  · refine ⟨writes ▸ fits.only, fun row found => ?_⟩
    obtain ⟨mine, free⟩ := fits.catalog row (writes ▸ found)
    exact ⟨mine, transferable_kept rows session _ _ kept locks free⟩
  · exact ⟨writes ▸ fits.listing, writes ▸ fits.catalog⟩

end

theorem fits_begun (work : ListingWork) : Fits rows ⟨work, [], ∅⟩ := by
  have nothing : ∀ key : ListingKey, key ∉ (∅ : ListingRows) := AList.notMem_empty
  have unset : ∀ key : ListingKey, (∅ : ListingRows).lookup key = none := AList.lookup_empty
  cases work with
  | saveListing catalogId owner =>
    exact ⟨fun key there => absurd there (nothing key), fun record found => nomatch (unset _).symm.trans found⟩
  | createListedRoom catalogId owner =>
    exact ⟨fun key there => absurd there (nothing key), fun row found => (nomatch (unset _).symm.trans found),
      fun there => absurd there (nothing _)⟩
  | saveTransferredRoom catalogId owner =>
    exact ⟨fun key there => absurd there (nothing key), fun row found => nomatch (unset _).symm.trans found⟩
  | archive => exact ⟨fun id => nothing _, fun id row found => nomatch (unset _).symm.trans found⟩

end

structure ListingSound (world : ListingDatabase) : Prop where
  locked : Locked world
  single : SingleListing world.rows
  fits : ∀ tx session, world.sessions tx = some session → Fits world.rows session

structure ListingOnward (world next : ListingDatabase) : Prop where
  base : Onwards world next
  kept : ∀ tx session session', world.sessions tx = some session → next.sessions tx = some session' → tx < world.opened →
    RowsKept world.rows next.rows session

theorem listing_onward_refl (world : ListingDatabase) : ListingOnward world world :=
  ⟨onwards_refl world, fun _ session _ _ _ _ => rows_kept_refl world.rows session⟩

theorem listing_onward_trans (first second third : ListingDatabase) (early : ListingOnward first second) (late : ListingOnward second third) :
    ListingOnward first third := by
  refine ⟨onwards_trans early.base late.base, fun tx session session' found found' older => ?_⟩
  have younger := Nat.lt_of_lt_of_le older early.base.opened
  obtain ⟨middle, between, _⟩ := late.base.sessions tx session' found' younger
  obtain ⟨start, found'', _, locks, _⟩ := early.base.sessions tx middle between older
  cases found.symm.trans found''
  have before := early.kept tx session middle found between older
  have after := late.kept tx middle session' between found' younger
  exact ⟨fun key mode holds guards => (after.guarded key mode (locks holds) guards).trans (before.guarded key mode holds guards),
    fun principal holds room lists => before.cleared principal holds room (after.cleared principal (locks holds) room lists),
    fun room holds listed => before.unlisted room holds (after.unlisted room (locks holds) listed)⟩

section

variable (world next : ListingDatabase)

def MayExecute : ListingStatement → ListingDatabase → Prop
  | .write tx key change, world => ∀ session, world.sessions tx = some session →
      ∀ row, change ((session.view world.rows).lookup key) = some row →
        Fits world.rows ((session.locked key (session.writeMode world.rows key)).wrote key row)
  | _, _ => True

section

variable (sound : ListingSound world)
include sound

theorem committed_kept (found : world.sessions tx = some session)
    {session' : ListingSession} (found' : world.sessions other = some session') (apart : other ≠ tx) :
    RowsKept world.rows (session.view world.rows) session' := by
  have warranted := fits_warranted world.rows session (sound.fits tx session found)
  have against := sound.locked.compatible other session' tx session found' found (fun same => apart same.symm)
  constructor
  · intro key mode holds guards
    refine session.view_unwritten world.rows key fun written => ?_
    obtain ⟨mode', holds', writing⟩ := sound.locked.covered tx session found key written
    have clear := against key mode mode' holds holds'
    rw [LockMode.guards_writes guards writing] at clear
    cases clear
  · intro principal holds room lists
    rcases warranted.lists room principal lists with old | ⟨holds', _⟩
    · exact old
    · cases against _ _ _ holds holds'
  · intro room holds listed
    rcases warranted.listed room listed with old | ⟨mode, holds', strong⟩
    · exact old
    · have clear := against _ _ _ holds holds'
      rw [LockMode.conflicts_symm, strong] at clear
      cases clear

theorem committed_single (found : world.sessions tx = some session) : SingleListing (session.view world.rows) := by
  have warranted := fits_warranted world.rows session (sound.fits tx session found)
  intro owner room other lists lists'
  rcases warranted.lists room owner lists with old | ⟨_, only⟩
  · rcases warranted.lists other owner lists' with old' | ⟨_, only⟩
    · exact sound.single owner room other old old'
    · exact only room lists
  · exact (only other lists').symm

theorem uncommitted (effect : Effect world next) (rows : next.rows = world.rows)
    (fits : ∀ tx session, next.sessions tx = some session → Fits world.rows session) : ListingSound next ∧ ListingOnward world next := by
  refine ⟨⟨effect_locked world next sound.locked effect, rows ▸ sound.single, rows ▸ fits⟩,
    effect_onwards world next sound.locked effect, fun tx session session' _ _ _ => ?_⟩
  rw [rows]
  exact rows_kept_refl world.rows session

theorem listing_closed : ListingSound (world.closed tx) ∧ ListingOnward world (world.closed tx) := by
  refine uncommitted world _ sound (.closed tx rfl) rfl fun other session found => ?_
  rcases updated_found found with ⟨_, gone⟩ | ⟨_, older⟩
  · cases gone
  · exact sound.fits other session older

theorem listing_fails (fails : Fails world tx answer next) : ListingSound next ∧ ListingOnward world next := by
  rcases fails.2 with rfl | rfl
  · exact ⟨sound, listing_onward_refl _⟩
  · exact listing_closed world sound

theorem listing_begun : ListingSound (world.begun work) ∧ ListingOnward world (world.begun work) := by
  refine uncommitted world _ sound (.begun work rfl) rfl fun other session found => ?_
  rcases updated_found found with ⟨_, new⟩ | ⟨_, older⟩
  · cases new
    exact fits_begun world.rows work
  · exact sound.fits other session older

theorem listing_changed (fits : Fits world.rows session) (effect : Effect world (world.changed tx session)) :
    ListingSound (world.changed tx session) ∧ ListingOnward world (world.changed tx session) := by
  refine uncommitted world _ sound effect rfl fun other session' found => ?_
  rcases updated_found found with ⟨_, new⟩ | ⟨_, older⟩
  · cases new
    exact fits
  · exact sound.fits other session' older

theorem listing_committed (found : world.sessions tx = some session) :
    ListingSound (world.committed tx session) ∧ ListingOnward world (world.committed tx session) := by
  have effect : Effect world (world.committed tx session) := .committed tx session found rfl
  have others : ∀ other session', (world.committed tx session).sessions other = some session' →
      other ≠ tx ∧ world.sessions other = some session' := by
    intro other session' found'
    rcases updated_found found' with ⟨_, gone⟩ | older
    · cases gone
    · exact older
  refine ⟨⟨effect_locked world _ sound.locked effect, committed_single world sound found, ?_⟩,
    effect_onwards world _ sound.locked effect, ?_⟩
  · intro other session' found'
    obtain ⟨apart, older⟩ := others other session' found'
    exact fits_kept world.rows session' (committed_kept world sound found older apart) rfl
      (List.Subset.refl _) rfl (sound.fits other session' older)
  · intro other one one' found₁ found₂ _
    exact committed_kept world sound found found₁ (others other one' found₂).1

theorem listing_executed (may : MayExecute statement world) (executes : Executes DatabaseFailure world statement answer next) :
    ListingSound next ∧ ListingOnward world next := by
  cases statement with
  | load =>
    obtain rfl : next = world := executes.1
    exact ⟨sound, listing_onward_refl _⟩
  | begin work =>
    rcases executes with ⟨_, rfl⟩ | ⟨_, rfl | rfl⟩
    · exact listing_begun world sound
    · exact ⟨sound, listing_onward_refl _⟩
    · exact listing_begun world sound
  | select tx =>
    rcases executes with ⟨_, _, _, rfl⟩ | fails
    · exact ⟨sound, listing_onward_refl _⟩
    · exact listing_fails world next sound fails
  | lock tx key mode =>
    have effect := executed_effect world next executes
    rcases executes with ⟨session, found, ⟨_, _, rfl⟩ | ⟨row, _, _, _, rfl⟩⟩ | fails
    · exact ⟨sound, listing_onward_refl _⟩
    · refine listing_changed world sound ?_ effect
      exact fits_kept world.rows session (rows_kept_refl world.rows session) rfl (List.subset_cons_self ..) rfl
        (sound.fits tx session found)
    · exact listing_fails world next sound fails
  | write tx key change =>
    have effect := executed_effect world next executes
    rcases executes with ⟨session, found, ⟨_, _, rfl⟩ | ⟨row, written, _, _, rfl⟩⟩ | fails
    · exact ⟨sound, listing_onward_refl _⟩
    · exact listing_changed world sound (may session found row written) effect
    · exact listing_fails world next sound fails
  | commit tx =>
    rcases executes with ⟨session, found, rfl, _⟩ | fails
    · exact listing_committed world sound found
    · exact listing_fails world next sound fails
  | rollback tx =>
    cases executes
    exact listing_closed world sound

end

end

def listingRely : Rely listingTransactions where
  invariant := ListingSound
  later := ListingOnward
  same := listing_onward_refl
  trans := listing_onward_trans
  moved := by
    rintro world next sound ⟨tx, rfl⟩
    exact listing_closed world sound

def MayCommit : ListingRequest → ListingStatement → ListingDatabase → Prop
  | .saveListing record _ owner, .commit tx, world => record.settings.listed = true →
      ∀ session, world.sessions tx = some session → OwnedBy world.rows record.catalogId owner
  | _, _, _ => True

abbrev ListingAnswer := Except RepositoryErrorKind PrivateRoomListingSaveOutcome

def listingDiscipline : Discipline listingTransactions ListingRequest ListingAnswer where
  toRely := listingRely
  may := fun request _ statement world => MayExecute statement world ∧ MayCommit request statement world
  promise := fun _ _ _ _ => True
  answered := fun _ _ world _ _ next sound _ may executes =>
    listing_executed world next sound may.1 executes

end AgentRoom.Listing
