import AgentRoom.Library.Sequential
import AgentRoom.Listing.OwnersLimit

namespace AgentRoom.Listing

open Library
open PrivateRooms (PrivateRoomListingSaveOutcome)

abbrev ListingTells {α : Type} (request : ListingRequest) (told : α → ListingDatabase → Prop) (program : ListingProgram α)
    (world : ListingDatabase) : Prop :=
  Tells listingRely (fun statement world => MayExecute statement world ∧ MayCommit request statement world) told program world

def OpenAs (tx : Nat) (holds : ListingRows → ListingSession → Prop) (world : ListingDatabase) : Prop :=
  tx < world.opened ∧ ∀ session, world.sessions tx = some session → holds world.rows session

def Known (key : ListingKey) (world : ListingDatabase) : Prop := key ∈ world.rows

def Persists (holds : ListingRows → ListingSession → Prop) : Prop :=
  ∀ (rows next : ListingRows) (session session' : ListingSession), RowsKept rows next session → session'.purpose = session.purpose →
    session.locks ⊆ session'.locks → (∀ key ∈ session.writes, key ∈ session'.writes) → holds rows session → holds next session'

theorem known_later {world : ListingDatabase} (since : ListingOnward world next) (there : Known key world) :
    Known key next := since.base.persist key there

theorem open_as_lasting {tx : Nat} (persists : Persists holds) : listingRely.Lasting (OpenAs tx holds) := by
  intro world next _ onward ⟨older, knows⟩
  refine ⟨Nat.lt_of_lt_of_le older onward.base.opened, fun session' found' => ?_⟩
  obtain ⟨session, found, purpose, locks, writes⟩ := onward.base.sessions tx session' found' older
  exact persists _ _ _ _ (onward.kept tx session session' found found' older) purpose locks writes (knows session found)

theorem open_later {tx : Nat} {world : ListingDatabase} (persists : Persists holds)
    (sound : ListingSound next) (since : ListingOnward world next) (known : OpenAs tx holds world) : OpenAs tx holds next :=
  open_as_lasting persists _ _ sound since known

abbrev Works (tx : Nat) (work : ListingWork) : ListingDatabase → Prop := OpenAs tx fun _ session => session.purpose = work

section

variable {catalogId : RoomCatalogId} {owner : PrincipalId}

theorem purpose_persists : Persists fun _ session => session.purpose = work :=
  fun _ _ _ _ _ purpose _ _ same => purpose.trans same

theorem lock_persists : Persists fun _ session => session.Holds key mode :=
  fun _ _ _ _ _ _ locks _ holds => locks holds

theorem cleared_persists : Persists fun rows session => Cleared rows session catalogId owner :=
  fun rows _ session _ kept _ locks _ cleared => cleared_kept rows session catalogId owner kept locks cleared

theorem transferable_persists : Persists fun rows session => Transferable rows session catalogId owner :=
  fun rows _ session _ kept _ locks _ free => transferable_kept rows session catalogId owner kept locks free

variable (catalogId owner) in
def Owned (rows : ListingRows) (session : ListingSession) : Prop :=
  session.Holds (.catalog catalogId) .share ∧ OwnedBy rows catalogId owner

theorem owned_persists : Persists (Owned catalogId owner) :=
  fun rows _ session _ kept _ locks _ ⟨holds, owned⟩ => ⟨locks holds, owned_kept rows session catalogId owner kept holds owned⟩

theorem entered_persists : Persists fun _ session => .catalog catalogId ∈ session.writes :=
  fun _ _ _ _ _ _ _ writes there => writes _ there

end

section

variable (request : ListingRequest) (world : ListingDatabase) {tx : Nat} (catalogId : RoomCatalogId) {owner : PrincipalId}

theorem may_execute (executes : MayExecute statement world)
    (other : ∀ tx, statement ≠ .commit tx) : MayExecute statement world ∧ MayCommit request statement world := by
  refine ⟨executes, ?_⟩
  cases request with
  | saveListing record expected owner =>
    cases statement with
    | commit tx => exact absurd rfl (other tx)
    | load | begin | select | lock | write | rollback => trivial
  | createListedRoom | saveTransferredRoom | archive | deleteAccount => trivial

variable {α : Type}

variable {work : ListingWork}

theorem fails_reads (fails : Fails world tx answer next) (reads : answer.mapError mapSqlxError = .ok value) : False := by
  obtain ⟨⟨failure, failed⟩, _⟩ := fails
  rw [failed] at reads
  cases reads

theorem begin_tells : ListingTells request (fun tx now => Works tx work now) (begin' work) world := by
  refine tells_call (fun now _ _ => may_execute request now trivial nofun) (fun tx => open_as_lasting purpose_persists) ?_
  intro now answer after tx _ _ executes _ reads
  have answered := map_error_read reads
  rcases executes with ⟨same, rfl⟩ | ⟨⟨failure, failed⟩, _⟩
  · cases answered.symm.trans same
    refine ⟨Nat.lt_succ_self _, fun session found => ?_⟩
    rcases updated_found found with ⟨_, new⟩ | ⟨apart, _⟩
    · cases new
      rfl
    · exact absurd rfl apart
  · cases answered.symm.trans failed

theorem let_go_tells : ListingTells request (fun _ _ => True) (letGo tx value) world := by
  refine tells_then _ (tells_nothing fun now _ _ => may_execute request now trivial nofun) fun _ first _ _ _ => ?_
  exact tells_pure fun _ _ _ => trivial

theorem known_tells (key : ListingKey) : ListingTells request (fun _ => Known key) (known key) world := by
  refine tells_then (fun rows now => key ∈ rows → Known key now) ?_ fun rows first _ _ told => ?_
  · refine tells_call (fun now _ _ => may_execute request now trivial nofun)
      (fun rows _ _ sound onward holds there => known_later onward (holds there)) ?_
    intro now answer after rows _ _ executes _ reads there
    have answered := map_error_read reads
    obtain ⟨rfl, same | ⟨failure, failed⟩⟩ := executes
    · cases answered.symm.trans same
      exact there
    · cases answered.symm.trans failed
  · refine tells_settled fun _ now sound since checked => ?_
    exact known_later since (told ((ensure_ok ..).mp checked))

theorem lock_tells (there : Known key world) (open' : tx < world.opened) :
    ListingTells request (fun _ now => OpenAs tx (fun _ session => session.Holds key mode) now) (lockRow tx key mode) world := by
  refine tells_call (fun now _ _ => may_execute request now trivial nofun)
    (fun _ => open_as_lasting lock_persists) ?_
  intro now answer after value sound since executes _ reads
  have older := Nat.lt_of_lt_of_le open' since.base.opened
  rcases executes with ⟨session, found, ⟨absent, _, _⟩ | ⟨row, _, _, _, rfl⟩⟩ | fails
  · have shown := session.view_kept now.rows key (known_later since there)
    exact absurd shown (AList.lookup_eq_none.mp absent)
  · refine ⟨older, fun session' found' => ?_⟩
    rcases updated_found found' with ⟨_, new⟩ | ⟨apart, _⟩
    · cases new
      exact List.mem_cons_self ..
    · exact absurd rfl apart
  · exact (fails_reads now fails reads).elim

def SeesElsewhere (work : ListingWork) (catalogId : RoomCatalogId) : Prop :=
  ∀ rows session, session.purpose = work → Fits rows session → ∀ room, room ≠ catalogId → ∀ principal,
    (Lists (session.view rows) room principal ↔ Lists rows room principal)

theorem owner_lists_another_tells (sees : SeesElsewhere work catalogId) (there : Known (.principal owner) world)
    (purpose : Works tx work world) :
    ListingTells request (fun another now => another = false → OpenAs tx (fun rows session => Cleared rows session catalogId owner) now)
      (ownerListsAnother tx catalogId owner) world := by
  refine tells_then _ (lock_tells request world there purpose.1) fun _ first sound since holds => ?_
  have purpose' := open_later purpose_persists sound since purpose
  refine tells_then (fun rows now => (∀ other, Lists rows other owner → other = catalogId) →
    OpenAs tx (fun rows session => Cleared rows session catalogId owner) now) ?_ fun rows second _ _ told => ?_
  · refine tells_call (fun now _ _ => may_execute request now trivial nofun)
      (fun rows _ _ sound onward holds only => open_later cleared_persists sound onward (holds only)) ?_
    intro now answer after rows sound since executes _ reads only
    have answered := map_error_read reads
    rcases executes with ⟨session, found, same, rfl⟩ | fails
    · cases answered.symm.trans same
      have holds' := open_later lock_persists sound since holds
      have purpose'' := open_later purpose_persists sound since purpose'
      refine ⟨holds'.1, fun session' found' => ?_⟩
      cases found.symm.trans found'
      refine ⟨holds'.2 session found, fun other lists => ?_⟩
      by_cases mine : other = catalogId
      · exact mine
      · exact only other ((sees after.rows session (purpose''.2 session found) (sound.fits tx session found) other mine owner).mpr lists)
    · exact (fails_reads now fails reads).elim
  · refine tells_pure fun now sound since none' => ?_
    refine open_later cleared_persists sound since (told fun other lists => ?_)
    have nobody := List.any_eq_false.mp none' other ((listed_rooms_mem).mpr lists)
    simpa using nobody

theorem listing_sees : SeesElsewhere (.saveListing catalogId owner) catalogId := by
  intro rows session purpose fits room apart principal
  exact listing_elsewhere rows session catalogId owner ((fits_listing purpose).mp fits) apart

theorem creation_sees : SeesElsewhere (.createListedRoom catalogId owner) catalogId := by
  intro rows session purpose fits room apart principal
  exact creation_elsewhere rows session catalogId owner ((fits_creation purpose).mp fits) room apart principal

theorem transfer_sees : SeesElsewhere (.saveTransferredRoom catalogId owner) catalogId := by
  intro rows session purpose fits room apart principal
  exact transfer_elsewhere rows session catalogId owner ((fits_transfer purpose).mp fits) room apart principal

theorem still_owned_tells (purpose : Works tx (.saveListing catalogId owner) world) :
    ListingTells request (fun owned now => owned = true → OpenAs tx (Owned catalogId owner) now) (stillOwnedBy tx catalogId owner) world := by
  refine tells_then (fun (current : Option CatalogRow) now => current.bind CatalogRow.ownerPrincipalId = some owner →
    OpenAs tx (Owned catalogId owner) now) ?_ fun current first _ _ told => ?_
  · refine tells_call (fun now _ _ => may_execute request now trivial nofun)
      (fun current _ _ sound onward holds mine => open_later owned_persists sound onward (holds mine)) ?_
    intro now answer after current sound since executes _ reads mine
    have answered := map_error_read reads
    have purpose' := open_later purpose_persists sound since purpose
    rcases executes with ⟨session, found, ⟨_, none', _⟩ | ⟨row, seen, _, some', rfl⟩⟩ | fails
    · cases answered.symm.trans none'
      cases mine
    · cases answered.symm.trans some'
      have fits := (fits_listing (purpose'.2 session found)).mp (sound.fits tx session found)
      have unchanged : .catalog catalogId ∉ session.writes := fun written => by cases fits.only _ written
      rw [session.view_unwritten now.rows _ unchanged] at seen
      refine ⟨purpose'.1, fun session' found' => ?_⟩
      rcases updated_found found' with ⟨_, new⟩ | ⟨apart, _⟩
      · cases new
        exact ⟨List.mem_cons_self .., row, seen, mine⟩
      · exact absurd rfl apart
    · exact (fails_reads now fails reads).elim
  · refine tells_pure fun now sound since mine => ?_
    exact open_later owned_persists sound since (told (of_decide_eq_true mine))

theorem write_tells (key : ListingKey) (change : Option (ListingRow key) → Option (ListingRow key))
    (read : Except DatabaseFailure Bool → Except RepositoryErrorKind α)
    (fits : ∀ now, ListingSound now → ListingOnward world now → ∀ session, now.sessions tx = some session →
      ∀ row, change ((session.view now.rows).lookup key) = some row →
        Fits now.rows ((session.locked key (session.writeMode now.rows key)).wrote key row)) :
    ListingTells request (fun _ _ => True) (consult (.write tx key change) read) world :=
  tells_nothing fun now sound since => may_execute request now (fits now sound since) nofun

theorem commit_tells (may : ∀ now, ListingSound now → ListingOnward world now → MayCommit request (.commit tx) now) :
    ListingTells request (fun _ _ => True) (commit tx) world :=
  tells_nothing fun now sound since => ⟨trivial, may now sound since⟩

theorem commit_saved_tells (may : ∀ now, ListingSound now → ListingOnward world now → MayCommit request (.commit tx) now) :
    ListingTells request (fun _ _ => True) (commitSaved tx outcome) world := by
  unfold commitSaved
  split
  · refine tells_then _ (commit_tells request world may) fun _ first _ _ _ => ?_
    exact tells_pure fun _ _ _ => trivial
  · exact let_go_tells request world

end

section

variable {world : ListingDatabase} {tx : Nat} {record : PrivateRoomListingRecord} {expected : Option AggregateVersion} (owner : PrincipalId)

def Listable (catalogId : RoomCatalogId) (owner : PrincipalId) (rows : ListingRows) (session : ListingSession) : Prop :=
  Owned catalogId owner rows session ∧ Cleared rows session catalogId owner

theorem listable_persists {owner : PrincipalId} : Persists (Listable catalogId owner) :=
  fun rows next session session' kept purpose locks writes ⟨owned, cleared⟩ =>
    ⟨owned_persists rows next session session' kept purpose locks writes owned,
      cleared_kept rows session catalogId owner kept locks cleared⟩

theorem listing_refused_tells (there : Known (.principal owner) world)
    (purpose : Works tx (.saveListing record.catalogId owner) world) :
    ListingTells request (fun refused now => refused = none → record.settings.listed = true →
      OpenAs tx (Listable record.catalogId owner) now) (listingRefused tx record owner) world := by
  unfold listingRefused
  by_cases listed : record.settings.listed = true
  · rw [if_pos listed]
    refine tells_then _ (still_owned_tells request world record.catalogId purpose) fun owned first sound since told => ?_
    cases owned with
    | false => exact tells_pure fun _ _ _ => nofun
    | true =>
      have there' := known_later since there
      have purpose' := open_later purpose_persists sound since purpose
      refine tells_then _ (owner_lists_another_tells request first record.catalogId (listing_sees record.catalogId)
        there' purpose') fun another second sound since' clears => ?_
      refine tells_pure fun now sound' since'' free _ => ?_
      cases another with
      | true => cases free
      | false =>
        have owned := open_later owned_persists sound since' (told rfl)
        have cleared := clears rfl
        exact open_later listable_persists sound' since''
          ⟨owned.1, fun session found => ⟨owned.2 session found, cleared.2 session found⟩⟩
  · rw [if_neg listed]
    exact tells_pure fun _ _ _ _ impossible => absurd impossible listed

theorem listing_fits {session : ListingSession} (row : PrivateRoomListingRecord) (purpose : session.purpose = .saveListing catalogId owner) (fits : Fits rows session)
    (free : row.settings.listed = true → Listable catalogId owner rows session) :
    Fits rows ((session.locked (.listing catalogId) mode).wrote (.listing catalogId) row) := by
  have still : ((session.locked (.listing catalogId) mode).wrote (.listing catalogId) row).purpose = .saveListing catalogId owner := purpose
  replace fits := (fits_listing purpose).mp fits
  refine (fits_listing still).mpr ⟨fun key written => ?_, fun record found listed => ?_⟩
  · rcases (AList.mem_insert ..).mp written with same | older
    · exact same
    · exact fits.only key older
  · cases (AList.lookup_insert session.writes).symm.trans found
    obtain ⟨⟨holds, owned⟩, cleared, only⟩ := free listed
    exact ⟨List.mem_cons_of_mem _ holds, ⟨List.mem_cons_of_mem _ cleared, only⟩, owned⟩

theorem write_listing_tells (purpose : Works tx (.saveListing record.catalogId owner) world)
    (free : record.settings.listed = true → OpenAs tx (Listable record.catalogId owner) world) :
    ListingTells request (fun _ _ => True) (writeListing tx record expected) world := by
  have writes : ∀ change : Option PrivateRoomListingRecord → Option PrivateRoomListingRecord,
      (∀ before row, change before = some row → row.settings = record.settings) →
      ListingTells request (fun _ _ => True)
        (consult (.write tx (.listing record.catalogId) change) uniqueOutcome : ListingProgram PrivateRoomListingSaveOutcome) world := by
    intro change same
    refine write_tells request world (.listing record.catalogId) change uniqueOutcome fun now sound since session found row changed => ?_
    have purpose' := open_later purpose_persists sound since purpose
    refine listing_fits owner row (purpose'.2 session found) (sound.fits tx session found) fun listed => ?_
    rw [same _ row changed] at listed
    exact (open_later listable_persists sound since (free listed)).2 session found
  cases expected with
  | none =>
    refine writes _ fun before row changed => ?_
    cases before with
    | none =>
      cases changed
      rfl
    | some old => cases changed
  | some expected =>
    refine writes _ fun before row changed => ?_
    cases before with
    | none => cases changed
    | some old =>
      simp only [updateIf] at changed
      split at changed
      · cases changed
        rfl
      · cases changed

theorem save_listing_tells (there : Known (.principal owner) world) :
    ListingTells (.saveListing record expected owner) (fun _ _ => True) (saveListing record expected owner) world := by
  refine tells_then _ (begin_tells _ world) fun tx first sound since purpose => ?_
  have there' := known_later since there
  refine tells_then _ (listing_refused_tells owner there' purpose) fun refused second sound since' free => ?_
  cases refused with
  | some outcome => exact let_go_tells _ second
  | none =>
    have purpose' := open_later purpose_persists sound since' purpose
    refine tells_then _ (write_listing_tells owner purpose' (free rfl)) fun outcome third sound since'' _ => ?_
    refine commit_saved_tells _ third fun now sound' later listed session found => ?_
    have free' := open_later listable_persists sound since'' (free rfl listed)
    exact ((open_later listable_persists sound' later free').2 session found).1.2

end

section

variable {world : ListingDatabase} (tx : Nat) {room : PrivateRoom} {listing : PrivateRoomListingRecord}

variable {session : ListingSession} {catalogId : RoomCatalogId}

theorem catalog_fits (purpose : session.purpose = .createListedRoom catalogId owner) (fits : Fits rows session)
    (mine : row.ownerPrincipalId = some owner) (cleared : Cleared rows session catalogId owner) :
    Fits rows ((session.locked (.catalog catalogId) .update).wrote (.catalog catalogId) row) := by
  have still : ((session.locked (.catalog catalogId) .update).wrote (.catalog catalogId) row).purpose = .createListedRoom catalogId owner := purpose
  replace fits := (fits_creation purpose).mp fits
  refine (fits_creation still).mpr ⟨fun key written => ?_, fun other found => ?_, fun _ => (AList.mem_insert ..).mpr (.inl rfl)⟩
  · rcases (AList.mem_insert ..).mp written with same | older
    · exact .inl same
    · exact fits.only key older
  · cases (AList.lookup_insert session.writes).symm.trans found
    exact ⟨mine, List.mem_cons_self .., List.mem_cons_of_mem _ cleared.1, cleared.2⟩

theorem created_fits (purpose : session.purpose = .createListedRoom catalogId owner) (fits : Fits rows session)
    (which : key = .state catalogId ∨ key = .listing catalogId) (entered : .catalog catalogId ∈ session.writes) :
    Fits rows ((session.locked key mode).wrote key row) := by
  have still : ((session.locked key mode).wrote key row).purpose = .createListedRoom catalogId owner := purpose
  replace fits := (fits_creation purpose).mp fits
  have apart : ListingKey.catalog catalogId ≠ key := by
    rintro rfl
    rcases which with same | same <;> cases same
  refine (fits_creation still).mpr ⟨fun other written => ?_, fun other found => ?_, fun _ => (AList.mem_insert ..).mpr (.inr entered)⟩
  · rcases (AList.mem_insert ..).mp written with rfl | older
    · exact .inr which
    · exact fits.only other older
  · obtain ⟨mine, holds, cleared, only⟩ := fits.catalog other ((AList.lookup_insert_ne apart).symm.trans found)
    exact ⟨mine, List.mem_cons_of_mem _ holds, List.mem_cons_of_mem _ cleared, only⟩

def Entered (tx : Nat) (catalogId : RoomCatalogId) : ListingDatabase → Prop := OpenAs tx fun _ session => .catalog catalogId ∈ session.writes

theorem insert_only_inserts (inserts : insertOnly row before = some written) : before = none ∧ written = row := by
  cases before with
  | none =>
    cases inserts
    exact ⟨rfl, rfl⟩
  | some old => cases inserts

theorem enter_tells (purpose : Works tx (.createListedRoom room.catalogId room.ownerPrincipalId) world)
    (cleared : OpenAs tx (fun rows session => Cleared rows session room.catalogId room.ownerPrincipalId) world) :
    ListingTells request (fun entered now => entered = true → Entered tx room.catalogId now)
      (writeRow tx (.catalog room.catalogId) (insertOnly ⟨some room.ownerPrincipalId, room.status⟩)) world := by
  refine tells_call (fun now sound since => may_execute request now (fun session found row inserts => ?_) nofun)
    (fun _ _ _ sound onward holds mine => open_later entered_persists sound onward (holds mine)) ?_
  · obtain ⟨absent, rfl⟩ := insert_only_inserts inserts
    have purpose' := open_later purpose_persists sound since purpose
    have cleared' := open_later cleared_persists sound since cleared
    have mode : session.writeMode now.rows (.catalog room.catalogId) = .update := by rw [Session.writeMode, absent]; rfl
    rw [mode]
    exact catalog_fits (purpose'.2 session found) (sound.fits tx session found) rfl
      (cleared'.2 session found)
  · intro now answer after entered sound since executes _ reads yes
    have answered := map_error_read reads
    rcases executes with ⟨session, found, ⟨_, no, _⟩ | ⟨row, _, _, _, rfl⟩⟩ | fails
    · rw [answered, yes] at no
      cases no
    · refine ⟨Nat.lt_of_lt_of_le purpose.1 since.base.opened, fun session' found' => ?_⟩
      rcases updated_found found' with ⟨_, new⟩ | ⟨apart, _⟩
      · cases new
        exact (AList.mem_insert ..).mpr (.inl rfl)
      · exact absurd rfl apart
    · exact (fails_reads now fails reads).elim

theorem create_room_tells (purpose : Works tx (.createListedRoom room.catalogId room.ownerPrincipalId) world)
    (cleared : OpenAs tx (fun rows session => Cleared rows session room.catalogId room.ownerPrincipalId) world) :
    ListingTells request (fun created now => created = true → Entered tx room.catalogId now) (createPrivateRoom tx room) world := by
  refine tells_then _ (enter_tells tx purpose cleared) fun entered first sound since told => ?_
  cases entered with
  | false => exact tells_pure fun _ _ _ => nofun
  | true =>
    have purpose' := open_later purpose_persists sound since purpose
    have written := write_tells request first (.state room.catalogId) (insertOnly room.version) (Except.mapError mapSqlxError)
      fun now sound since session found row _ => by
        have purpose'' := open_later purpose_persists sound since purpose'
        have entered := open_later entered_persists sound since (told rfl)
        exact created_fits (purpose''.2 session found)
          (sound.fits tx session found) (.inl rfl) (entered.2 session found)
    refine tells_weaker (fun _ _ _ holds _ => holds.2)
      (tells_frame (open_as_lasting entered_persists) (told rfl) written)

theorem create_listed_tells (there : Known (.principal room.ownerPrincipalId) world)
    (commits : ∀ tx now, MayCommit request (.commit tx) now) :
    ListingTells request (fun _ _ => True) (createListedRoom room listing) world := by
  refine tells_then _ (tells_settled fun _ _ _ _ _ => trivial) fun _ first sound since _ => ?_
  refine tells_then (fun _ _ => listing.catalogId = room.catalogId)
    (tells_settled fun _ _ _ _ fits => ((ensure_ok ..).mp fits).1) fun _ second sound' since' same => ?_
  refine tells_then _ (begin_tells request second) fun tx third sound'' since'' purpose => ?_
  have there' := known_later since'' (known_later since' (known_later since there))
  rw [same]
  refine tells_then _ (owner_lists_another_tells request third room.catalogId
    (creation_sees room.catalogId) there' purpose) fun another fourth sound since clears => ?_
  cases another with
  | true => exact let_go_tells request fourth
  | false =>
    have purpose' := open_later purpose_persists sound since purpose
    refine tells_then (fun (created : Except RepositoryErrorKind Bool) now => ∀ value, created = .ok value → value = true →
      Entered tx room.catalogId now)
      (tells_attempted (create_room_tells tx purpose' (clears rfl))) fun created fifth sound since told => ?_
    have purpose'' := open_later purpose_persists sound since purpose'
    split
    · refine tells_then (fun _ _ => True) ?_ fun outcome sixth _ _ _ => commit_saved_tells request sixth fun now _ _ => commits tx now
      refine write_tells request fifth (.listing listing.catalogId) (insertOnly listing) uniqueOutcome
        fun now sound since session found row _ => ?_
      have still := open_later purpose_persists sound since purpose''
      have entered := open_later entered_persists sound since (told true rfl rfl)
      exact created_fits (still.2 session found)
        (sound.fits tx session found) (.inr (congrArg _ same)) (entered.2 session found)
    · exact let_go_tells request fifth
    · exact let_go_tells request fifth
    · exact tells_settled fun _ _ _ _ _ => trivial

end

section

variable (world : ListingDatabase) (tx : Nat) {room : PrivateRoom} {expected : AggregateVersion}

variable {rows : ListingRows} {session : ListingSession} {key : ListingKey}

variable {owner : PrincipalId}

theorem transfer_fits {catalogId : RoomCatalogId} (purpose : session.purpose = .saveTransferredRoom catalogId owner) (fits : Fits rows session)
    (which : key = .state catalogId ∨ key = .catalog catalogId)
    (mine : ∀ entry : CatalogRow, (⟨key, row⟩ : Sigma ListingRow) = ⟨.catalog catalogId, entry⟩ →
      entry.ownerPrincipalId = some owner ∧ Transferable rows session catalogId owner) :
    Fits rows ((session.locked key mode).wrote key row) := by
  have still : ((session.locked key mode).wrote key row).purpose = .saveTransferredRoom catalogId owner := purpose
  have grown : ∀ session', session'.locks = (key, mode) :: session.locks → Transferable rows session catalogId owner →
      Transferable rows session' catalogId owner := fun session' locks free =>
    transferable_kept rows session catalogId owner (rows_kept_refl rows session) (locks ▸ List.subset_cons_self ..) free
  replace fits := (fits_transfer purpose).mp fits
  refine (fits_transfer still).mpr ⟨fun other written => ?_, fun other found => ?_⟩
  · rcases (AList.mem_insert ..).mp written with rfl | older
    · exact which
    · exact fits.only other older
  · by_cases here : ListingKey.catalog catalogId = key
    · subst here
      cases (AList.lookup_insert session.writes).symm.trans found
      obtain ⟨mine, free⟩ := mine _ rfl
      exact ⟨mine, grown _ rfl free⟩
    · obtain ⟨mine, free⟩ := fits.catalog other ((AList.lookup_insert_ne here).symm.trans found)
      exact ⟨mine, grown _ rfl free⟩

theorem archive_fits (purpose : session.purpose = .archive) (fits : Fits rows session) (which : ∀ id, key ≠ .listing id)
    (archived : ∀ id (entry : CatalogRow), (⟨key, row⟩ : Sigma ListingRow) = ⟨.catalog id, entry⟩ → entry.status = .archived) :
    Fits rows ((session.locked key mode).wrote key row) := by
  have still : ((session.locked key mode).wrote key row).purpose = .archive := purpose
  replace fits := (fits_archive purpose).mp fits
  refine (fits_archive still).mpr ⟨fun id written => ?_, fun id other found => ?_⟩
  · rcases (AList.mem_insert ..).mp written with same | older
    · exact which id same.symm
    · exact fits.listing id older
  · by_cases here : ListingKey.catalog id = key
    · subst here
      cases (AList.lookup_insert session.writes).symm.trans found
      exact archived id _ rfl
    · exact fits.catalog id other ((AList.lookup_insert_ne here).symm.trans found)

theorem save_room_tells {request : ListingRequest}
    (state : ∀ now, ListingSound now → ListingOnward world now → ∀ session, now.sessions tx = some session → ∀ row mode,
      Fits now.rows ((session.locked (.state room.catalogId) mode).wrote (.state room.catalogId) row))
    (catalog : ∀ now, ListingSound now → ListingOnward world now → ∀ session, now.sessions tx = some session → ∀ mode,
      Fits now.rows ((session.locked (.catalog room.catalogId) mode).wrote (.catalog room.catalogId)
        ⟨some room.ownerPrincipalId, room.status⟩)) :
    ListingTells request (fun _ _ => True) (savePrivateRoom tx room expected) world := by
  refine tells_then (fun _ _ => True) ?_ fun versioned first _ since _ => ?_
  · exact write_tells request world _ _ _ fun now sound since session found row _ => state now sound since session found row _
  refine tells_then (fun _ _ => True) (tells_settled fun _ _ _ _ _ => trivial) fun _ second _ since' _ => ?_
  refine tells_then (fun _ _ => True) ?_ fun entered third _ _ _ => tells_settled fun _ _ _ _ _ => trivial
  refine write_tells request second (.catalog room.catalogId) _ _ fun now sound since'' session found row changed => ?_
  have given : row = ⟨some room.ownerPrincipalId, room.status⟩ := by
    cases before : (session.view now.rows).lookup (.catalog room.catalogId) with
    | none =>
      rw [before] at changed
      cases changed
    | some old =>
      rw [before] at changed
      cases changed
      rfl
  rw [given]
  exact catalog now sound (listing_onward_trans _ _ _ since (listing_onward_trans _ _ _ since' since'')) session found _

def Locked (tx : Nat) (catalogId : RoomCatalogId) (owner : PrincipalId) (listed : Bool) (world : ListingDatabase) : Prop :=
  OpenAs tx (fun _ session => session.Holds (.catalog catalogId) .noKeyUpdate) world ∧
    (listed = false → OpenAs tx (fun rows session => Transferable rows session catalogId owner) world)

theorem locked_listed_tells {request : ListingRequest} (there : Known (.catalog room.catalogId) world)
    (purpose : Works tx (.saveTransferredRoom room.catalogId room.ownerPrincipalId) world) :
    ListingTells request (Locked tx room.catalogId room.ownerPrincipalId) (lockRoomAndReadListed tx room.catalogId) world := by
  refine tells_then _ (lock_tells request world there purpose.1) fun _ first sound since holds => ?_
  have purpose' := open_later purpose_persists sound since purpose
  have lasting : ∀ rows, listingRely.Lasting (Locked tx room.catalogId room.ownerPrincipalId (isListed rows room.catalogId)) :=
    fun rows state next sound onward ⟨held, free⟩ =>
      ⟨open_later lock_persists sound onward held, fun unlisted => open_later transferable_persists sound onward (free unlisted)⟩
  refine tells_then (fun rows => Locked tx room.catalogId room.ownerPrincipalId (isListed rows room.catalogId)) ?_
    fun rows second _ _ told => tells_pure fun now sound since => lasting rows _ _ sound since told
  refine tells_call (fun now _ _ => may_execute request now trivial nofun) lasting ?_
  intro now answer after rows sound since executes _ reads
  have answered := map_error_read reads
  rcases executes with ⟨session, found, same, rfl⟩ | fails
  · cases answered.symm.trans same
    have held := open_later lock_persists sound since holds
    have still := open_later purpose_persists sound since purpose'
    refine ⟨held, fun unlisted => ⟨held.1, fun session' found' => ?_⟩⟩
    cases found.symm.trans found'
    have fits := (fits_transfer (still.2 session found)).mp (sound.fits tx session found)
    have unwritten : .listing room.catalogId ∉ session.writes := fun written => by rcases fits.only _ written with same | same <;> cases same
    exact ⟨held.2 session found, .inl (view_listed after.rows session unwritten ▸ unlisted)⟩
  · exact (fails_reads now fails reads).elim

theorem transfer_refused_tells {request : ListingRequest} (there : Known (.catalog room.catalogId) world)
    (there' : Known (.principal room.ownerPrincipalId) world)
    (purpose : Works tx (.saveTransferredRoom room.catalogId room.ownerPrincipalId) world) :
    ListingTells request (fun refused now => refused = false →
      OpenAs tx (fun rows session => Transferable rows session room.catalogId room.ownerPrincipalId) now) (transferRefused tx room) world := by
  refine tells_then _ (locked_listed_tells world tx there purpose) fun listed first sound since told => ?_
  obtain ⟨holds, free⟩ := told
  cases listed with
  | false =>
    refine tells_pure fun now sound' since' _ => ?_
    exact open_later transferable_persists sound' since' (free rfl)
  | true =>
    have known := known_later since there'
    have purpose' := open_later purpose_persists sound since purpose
    have clears := owner_lists_another_tells request first room.catalogId
      (transfer_sees room.catalogId) known purpose'
    have framed := tells_frame (open_as_lasting lock_persists) holds clears
    refine tells_weaker (fun another now _ told' none' => ?_) framed
    obtain ⟨cleared, held⟩ := told'
    exact ⟨held.1, fun session found => ⟨held.2 session found, .inr ((cleared none').2 session found)⟩⟩

theorem save_transferred_tells (there : Known (.catalog room.catalogId) world)
    (there' : Known (.principal room.ownerPrincipalId) world) (commits : ∀ tx now, MayCommit request (.commit tx) now) :
    ListingTells request (fun _ _ => True) (saveTransferredRoom room expected) world := by
  refine tells_then (fun _ _ => True) (tells_settled fun _ _ _ _ _ => trivial) fun _ first sound since _ => ?_
  refine tells_then _ (begin_tells request first) fun tx second sound' since' purpose => ?_
  have known := known_later since' (known_later since there)
  have known' := known_later since' (known_later since there')
  refine tells_then _ (transfer_refused_tells second tx known known' purpose) fun refused third sound'' since'' free => ?_
  have purpose' := open_later purpose_persists sound'' since'' purpose
  cases refused with
  | true => exact let_go_tells request third
  | false =>
    refine tells_then (fun _ _ => True) ?_ fun _ fourth _ _ _ => ?_
    · refine save_room_tells third tx ?_ ?_
      · intro now sound since session found row mode
        have still := open_later purpose_persists sound since purpose'
        exact transfer_fits (still.2 session found)
          (sound.fits tx session found) (.inl rfl) fun entry same => nomatch same
      · intro now sound since session found mode
        have still := open_later purpose_persists sound since purpose'
        have free' := open_later transferable_persists sound since (free rfl)
        refine transfer_fits (still.2 session found)
          (sound.fits tx session found) (.inr rfl) fun entry same => ?_
        cases same
        exact ⟨rfl, free'.2 session found⟩
    · refine tells_then _ (commit_tells request fourth fun now _ _ => commits tx now) fun _ fifth _ _ _ => ?_
      exact tells_pure fun _ _ _ => trivial

theorem archive_tells (commits : ∀ tx now, MayCommit request (.commit tx) now) :
    ListingTells request (fun _ _ => True) (archive room expected) world := by
  refine tells_then (fun _ _ => True) (tells_settled fun _ _ _ _ _ => trivial) fun _ first sound since _ => ?_
  refine tells_then _ (begin_tells request first) fun tx second sound' since' purpose => ?_
  refine tells_then (fun _ _ => True) ?_ fun _ third _ _ _ => ?_
  · refine save_room_tells second tx ?_ ?_
    · intro now sound since session found row mode
      have still := open_later purpose_persists sound since purpose
      exact archive_fits (still.2 session found) (sound.fits tx session found) nofun fun id entry same => nomatch same
    · intro now sound since session found mode
      have still := open_later purpose_persists sound since purpose
      refine archive_fits (still.2 session found) (sound.fits tx session found) nofun fun id entry same => ?_
      cases same
      rfl
  · refine tells_then _ (commit_tells request third fun now _ _ => commits tx now) fun _ fourth _ _ _ => ?_
    exact tells_pure fun _ _ _ => trivial

theorem archive_each_tells {request : ListingRequest} (purpose : Works tx .archive world) :
    ListingTells request (fun _ _ => True) (archiveEach tx owner rooms) world := by
  induction rooms generalizing world with
  | nil => exact tells_pure fun _ _ _ => trivial
  | cons catalogId rest ih =>
    refine tells_then (fun _ _ => True) ?_ fun _ first sound since _ =>
      ih first (open_later purpose_persists sound since purpose)
    refine write_tells request world (.catalog catalogId) _ _ fun now sound since session found row changed => ?_
    have still := open_later purpose_persists sound since purpose
    refine archive_fits (still.2 session found) (sound.fits tx session found) nofun fun id entry same => ?_
    cases same
    cases before : (session.view now.rows).lookup (.catalog catalogId) with
    | none =>
      rw [before] at changed
      cases changed
    | some old =>
      rw [before] at changed
      simp only [updateIf] at changed
      split at changed
      · cases changed
        rfl
      · cases changed

theorem archive_rooms_tells (owner : PrincipalId) (commits : ∀ tx now, MayCommit request (.commit tx) now) :
    ListingTells request (fun _ _ => True) (archivePrivateRooms owner) world := by
  refine tells_then _ (begin_tells request world) fun tx first sound since purpose => ?_
  refine tells_then (fun _ _ => True) (tells_nothing fun now _ _ => may_execute request now trivial nofun)
    fun rows second sound' since' _ => ?_
  have purpose' := open_later purpose_persists sound' since' purpose
  refine tells_then _ (archive_each_tells second tx purpose') fun _ third _ _ _ => ?_
  refine tells_then _ (commit_tells request third fun now _ _ => commits tx now) fun _ fourth _ _ _ => ?_
  exact tells_pure fun _ _ _ => trivial

end

theorem serve_tells {request : ListingRequest} {world : ListingDatabase} : ListingTells request (fun _ _ => True) request.serve world := by
  cases request with
  | saveListing record expected owner =>
    refine tells_then _ (known_tells _ world _) fun _ first _ _ there => ?_
    exact save_listing_tells owner there
  | createListedRoom room listing =>
    refine tells_then _ (known_tells _ world _) fun _ first _ _ there => ?_
    exact create_listed_tells there fun _ _ => trivial
  | saveTransferredRoom room expected =>
    refine tells_then _ (known_tells _ world _) fun _ first _ _ there => ?_
    refine tells_then _ (known_tells _ first _) fun _ second sound since there' => ?_
    exact save_transferred_tells second (known_later since there) there' fun _ _ => trivial
  | archive room expected => exact archive_tells world fun _ _ => trivial
  | deleteAccount owner => exact archive_rooms_tells world owner fun _ _ => trivial

abbrev ListingScene := Scene ListingDatabase ListingRequest ListingStatement (Reply DatabaseFailure) ListingAnswer

def ListingRuns : ListingScene → List (Turn ListingRequest) → ListingScene → Prop :=
  Runs (Turns listingTransactions fun request => request.serve.run)

def CommitsListing (caller : Caller ListingDatabase ListingRequest ListingStatement (Reply DatabaseFailure) ListingAnswer)
    (world : ListingDatabase) (record : PrivateRoomListingRecord) (owner : PrincipalId) : Prop :=
  (∃ expected, caller.request = .saveListing record expected owner) ∧ record.settings.listed = true ∧
    ∃ tx continuing session, caller.rest = .call (.commit tx) continuing ∧ world.sessions tx = some session

theorem listing_runs_kept (kept : listingDiscipline.Kept start)
    (run : ListingRuns start turns scene) : listingDiscipline.Kept scene ∧ ListingOnward start.world scene.world := by
  refine kept_run (fun request state _ => ?_) kept run
  exact safe_mono _ _ _ _ (fun _ _ _ _ => trivial) (serve_tells)

theorem one_listed_room_per_owner (start : ListingDatabase) (scene : ListingScene) (turns : List (Turn ListingRequest))
    (single : SingleListing start.rows) (idle : ∀ tx, start.sessions tx = none) (run : ListingRuns (.opening start) turns scene) :
    SingleListing scene.world.rows ∧ ∀ caller ∈ scene.callers, ∀ record owner, CommitsListing caller scene.world record owner →
      OwnedBy scene.world.rows record.catalogId owner := by
  have sound : ListingSound start := by
    refine ⟨⟨?_, ?_, ?_⟩, single, ?_⟩
    · exact fun tx session found => nomatch (idle tx).symm.trans found
    · exact fun tx session _ _ found => nomatch (idle tx).symm.trans found
    · exact fun tx session found => nomatch (idle tx).symm.trans found
    · exact fun tx session found => nomatch (idle tx).symm.trans found
  have opens : listingDiscipline.Kept (.opening start) := opening_kept sound
  have kept := (listing_runs_kept opens run).1
  refine ⟨kept.invariant.single, ?_⟩
  rintro caller listed record owner ⟨⟨expected, request⟩, lists, tx, continuing, session, next, found⟩
  have may := kept_may kept listed next
  have commits : MayCommit caller.request (.commit tx) scene.world := may.2
  rw [request] at commits
  exact commits lists session found

def twoRooms : ListingDatabase where
  rows := ((AList.singleton (.principal ⟨1⟩) ()).insert (.catalog ⟨10⟩) ⟨some ⟨1⟩, .active⟩).insert (.catalog ⟨20⟩) ⟨some ⟨1⟩, .active⟩
  sessions := fun _ => none
  opened := 0

def newListing (catalogId : RoomCatalogId) (code : RoomAccess.RoomShareCode) : PrivateRoomListingRecord where
  catalogId := catalogId
  settings := { RoomListingSettings.unlisted with listed := true }
  shareCode := code
  firstListedAt := 100
  updatedBy := ⟨1⟩
  updatedAt := 100
  version := AggregateVersion.initial

def bothListed : List (Turn ListingRequest) :=
  [.join (.saveListing (newListing ⟨10⟩ (.fromEntropy 0)) none ⟨1⟩), .join (.saveListing (newListing ⟨20⟩ (.fromEntropy 1)) none ⟨1⟩)] ++
    List.replicate 6 (.proceed 0) ++ List.replicate 3 (.proceed 1)

def aboutToList : ListingScene :=
  bothListed.foldl (rehearse (oblige (.other .unavailable)) fun request => request.serve.run) (.opening twoRooms)

theorem two_rooms_single : SingleListing twoRooms.rows := by
  intro owner room other lists
  cases lists.1

theorem first_about_to_list : ∃ caller ∈ aboutToList.callers, CommitsListing caller aboutToList.world (newListing ⟨10⟩ (.fromEntropy 0)) ⟨1⟩ := by
  refine ⟨_, List.mem_cons_self .., ⟨none, rfl⟩, rfl, 0, _, _, rfl, rfl⟩

theorem two_rooms_one_listed : ∃ turns, ListingRuns (.opening twoRooms) turns aboutToList ∧ SingleListing aboutToList.world.rows ∧
    OwnedBy aboutToList.world.rows ⟨10⟩ ⟨1⟩ := by
  obtain ⟨turns, run⟩ := rehearsed_run listingTransactions (oblige (DatabaseFailure.other .unavailable)) (oblige_executes (DatabaseFailure.other .unavailable)) (.opening twoRooms) bothListed
  obtain ⟨single, owned⟩ := one_listed_room_per_owner twoRooms aboutToList turns two_rooms_single (fun _ => rfl) run
  obtain ⟨caller, there, commits⟩ := first_about_to_list
  exact ⟨turns, run, single, owned caller there (newListing ⟨10⟩ (.fromEntropy 0)) ⟨1⟩ commits⟩

end AgentRoom.Listing
