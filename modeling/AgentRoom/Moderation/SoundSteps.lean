import AgentRoom.Moderation.Sound

namespace AgentRoom.Moderation

open Library Moderation.ModerationAction

section

variable {parseUuid : String → Option PrincipalId} {accounts : PrincipalId → Bool} {homes : String → Option MatrixRoomId}
variable {opens : Prop} (world next : ModerationWorld)

-- What has to hold of an event when it happens.
def Fits (parseUuid : String → Option PrincipalId) (accounts : PrincipalId → Bool) (opens : Prop)
    (world next : ModerationWorld) : ModerationEvent → Prop
  | .inspected _ _ rooms => rooms = world.shards
  | .reserved named _ => ∃ row, next.find named = some row
  | .effect true _ action => Justified world.log action
  | .looked action now => Known world action ∧ now ≤ world.now ∧ CalledOff parseUuid world world.log action now
  | .published lease room => opens ∧ Carried parseUuid accounts world world.log lease room
  | _ => True

def openedRoom : ModerationEvent → Option MatrixRoomId
  | .published _ room => some room
  | _ => none

variable {log : List ModerationEvent} {fresh : Option ModerationEvent}

theorem mem_extended (there : event ∈ log ++ fresh.toList) : event ∈ log ∨ fresh = some event := by
  simpa using there

theorem each_up_to_fresh (each : EachUpTo select holds log)
    (now : ∀ event item, fresh = some event → select event = some item → holds log item) :
    EachUpTo select holds (log ++ fresh.toList) := by
  cases fresh with
  | none => simpa using each
  | some event => exact each_up_to_snoc select each fun item selected => now event item rfl selected

theorem shards_step (fresh : Option ModerationEvent) (sound : Sound parseUuid accounts homes world opens)
    (shards : next.shards.Perm (world.shards ++ (fresh.bind openedRoom).toList))
    (fits : ∀ event, fresh = some event → Fits parseUuid accounts opens world next event) :
    EachSince inspectedRooms (fun rooms after => ∃ more, next.shards.Perm (rooms ++ more) ∧
      ∀ room ∈ more, ∃ lease, .published lease room ∈ after) (world.log ++ fresh.toList) := by
  have grown : EachSince inspectedRooms (fun rooms after => ∃ more, next.shards.Perm (rooms ++ more) ∧
      ∀ room ∈ more, ∃ lease, .published lease room ∈ after ++ fresh.toList) world.log := by
    refine each_since_mono inspectedRooms sound.shards ?_
    rintro rooms after ⟨more, same, opened⟩
    refine ⟨more ++ (fresh.bind openedRoom).toList, ?_, fun room listed => ?_⟩
    · rw [← List.append_assoc]
      exact shards.trans (same.append_right _)
    · rcases List.mem_append.mp listed with old | new
      · obtain ⟨lease, there⟩ := opened room old
        exact ⟨lease, List.mem_append_left _ there⟩
      · obtain ⟨event, happened, opens⟩ := Option.bind_eq_some_iff.mp (Option.mem_toList.mp new)
        cases event with
        | published lease _ =>
          cases opens
          exact ⟨lease, List.mem_append_right _ (Option.mem_toList.mpr happened)⟩
        | inspected | reserved | asked | looked | recorded | effect | carriedRead => cases opens
  cases fresh with
  | none => simpa using grown
  | some event =>
    refine each_since_snoc inspectedRooms grown (fun _ _ covered => covered) ?_
    intro rooms selected
    cases event with
    | inspected id target read =>
      cases selected
      have read : rooms = world.shards := fits _ rfl
      exact ⟨[], by simpa [openedRoom, read] using shards, nofun⟩
    | reserved | asked | looked | recorded | effect | carriedRead | published => cases selected

theorem sound_step (sound : Sound parseUuid accounts homes world opens) (later : Later world next)
    (log : next.log = world.log ++ fresh.toList) (listed : ∀ row ∈ next.ledger, next.find row.action.id = some row)
    (recorded : ∀ id, .recorded id ∈ next.log ↔ ∃ row, next.find id = some row ∧
      (row.action.status = .applied ∨ row.action.status = .reversed))
    (landed : ∀ row ∈ next.ledger, fresh = some (.recorded row.action.id) → LandedWhole homes next row.action)
    (shards : next.shards.Perm (world.shards ++ (fresh.bind openedRoom).toList))
    (fits : ∀ event, fresh = some event → Fits parseUuid accounts opens world next event) :
    Sound parseUuid accounts homes next opens where
  listed := listed
  recorded := recorded
  reserved := by
    intro id rooms noted
    rw [log] at noted
    rcases mem_extended noted with old | new
    · obtain ⟨row, found⟩ := sound.reserved id rooms old
      obtain ⟨row', found', _⟩ := later.rows id row found
      exact ⟨row', found'⟩
    · exact fits _ new
  landed := by
    intro row there noted
    rw [log] at noted
    rcases mem_extended noted with old | new
    · obtain ⟨before, found, _⟩ := (sound.recorded row.action.id).mp old
      obtain ⟨row', found', onward⟩ := later.rows _ before found
      cases found'.symm.trans (listed row there)
      obtain ⟨inLedger, named⟩ := find_listed world found
      exact landed_whole_later world next later onward.same (sound.landed before inLedger (named ▸ old))
    · exact landed row there new
  lifted := by
    rw [log]
    refine each_up_to_fresh sound.lifted ?_
    rintro event action new selected
    have fit := fits event new
    cases event with
    | effect lifts place lifted =>
      cases lifts with
      | true =>
        cases selected
        exact fit
      | false => cases selected
    | inspected | reserved | asked | looked | recorded | carriedRead | published => cases selected
  looked := by
    rw [log]
    refine each_up_to_fresh (each_up_to_mono _ sound.looked ?_) ?_
    · rintro before look ⟨known, past, calledOff⟩
      exact ⟨known_later world next later known, UtcMillis.le_trans _ _ _ past later.now,
        called_off_later world next later calledOff⟩
    · rintro event look new selected
      have fit := fits event new
      cases event with
      | looked action now =>
        cases selected
        obtain ⟨known, past, calledOff⟩ := fit
        exact ⟨known_later world next later known, UtcMillis.le_trans _ _ _ past later.now,
          called_off_later world next later calledOff⟩
      | inspected | reserved | asked | effect | recorded | carriedRead | published => cases selected
  shards := by
    rw [log]
    exact shards_step world next fresh sound shards fits
  published := by
    rw [log]
    refine each_up_to_fresh (each_up_to_mono _ sound.published fun before opening => carried_later world next later) ?_
    rintro event opening new selected
    have fit := fits event new
    cases event with
    | published lease room =>
      cases selected
      exact carried_later world next later fit.2
    | inspected | reserved | asked | effect | recorded | carriedRead | looked => cases selected
  closed := by
    intro shut lease room noted
    rw [log] at noted
    rcases mem_extended noted with old | new
    · exact sound.closed shut lease room old
    · exact shut (fits _ new).1

theorem sound_noted (fresh : Option ModerationEvent) (sound : Sound parseUuid accounts homes world opens)
    (log : next.log = world.log ++ fresh.toList) (ledger : next.ledger = world.ledger) (catalogId : next.catalogId = world.catalogId)
    (roomKind : next.roomKind = world.roomKind) (now : world.now ≤ next.now) (other : ∀ id, fresh ≠ some (.recorded id))
    (shards : next.shards.Perm (world.shards ++ (fresh.bind openedRoom).toList))
    (fits : ∀ event, fresh = some event → Fits parseUuid accounts opens world next event) :
    Sound parseUuid accounts homes next opens ∧ Later world next := by
  have find : next.find = world.find := by
    funext id
    simp [ModerationWorld.find, ledger]
  have later : Later world next := {
    log := ⟨fresh.toList, log.symm⟩
    now
    rows := fun id row found => ⟨row, find ▸ found, row_later_refl⟩
    catalogId
    roomKind }
  refine ⟨sound_step world next sound later log ?_ ?_ ?_ shards fits, later⟩
  · rw [ledger, find]
    exact sound.listed
  · intro id
    rw [find, ← sound.recorded id, log]
    constructor
    · intro noted
      exact (mem_extended noted).resolve_right (other id)
    · exact List.mem_append_left _
  · intro row _ new
    exact absurd new (other row.action.id)

variable {action : ModerationAction} {id : ModerationActionId}

theorem find_change (changed : ModerationActionId) (update : LedgerRow → LedgerRow)
    (keeps : ∀ row : LedgerRow, row.action.id = changed → (update row).action.id = changed) :
    (world.change changed update).find id = (world.find id).map fun row => if row.action.id = changed then update row else row := by
  simp only [ModerationWorld.find, ModerationWorld.change, List.find?_map]
  congr 2
  funext row
  by_cases here : row.action.id = changed
  · simp [here, keeps row here]
  · simp [here]

variable {row : LedgerRow} {changed : ModerationActionId}

theorem find_changed (update : LedgerRow → LedgerRow)
    (keeps : ∀ row : LedgerRow, row.action.id = changed → (update row).action.id = changed) (found : world.find changed = some row) :
    (world.change changed update).find changed = some (update row) := by
  rw [find_change world changed update keeps, found, Option.map_some, if_pos (find_listed world found).2]

theorem listed_change (listed : ∀ row ∈ world.ledger, world.find row.action.id = some row)
    (keeps : ∀ row : LedgerRow, row.action.id = changed → (update row).action.id = changed) :
    ∀ row ∈ (world.change changed update).ledger, (world.change changed update).find row.action.id = some row := by
  intro left there
  obtain ⟨old, inLedger, built⟩ := List.mem_map.mp there
  have before := listed old inLedger
  rw [find_change world changed update keeps]
  by_cases here : old.action.id = changed
  · rw [if_pos here] at built
    rw [← built, keeps old here, ← here, before]
    simp [here]
  · rw [if_neg here] at built
    rw [← built, before]
    simp [here]

variable {rooms : List MatrixRoomId}

theorem find_reserve : (world.reserve action rooms).find id =
      (world.find id).or (if action.id = id then some ⟨action, 0, none, none⟩ else none) := by
  simp [ModerationWorld.reserve, ModerationWorld.note, ModerationWorld.find, List.find?_append, List.find?_singleton]

theorem listed_reserve (listed : ∀ row ∈ world.ledger, world.find row.action.id = some row) (none' : world.find action.id = none) :
    ∀ row ∈ (world.reserve action rooms).ledger, (world.reserve action rooms).find row.action.id = some row := by
  intro row there
  rcases List.mem_append.mp there with old | new
  · rw [find_reserve, listed row old]
    rfl
  · cases List.mem_singleton.mp new
    simp [find_reserve, none']

theorem sound_changed (update : LedgerRow → LedgerRow) (noted : Bool)
    (sound : Sound parseUuid accounts homes world opens) (found : world.find changed = some row)
    (keeps : ∀ row : LedgerRow, row.action.id = changed → (update row).action.id = changed)
    (onward : RowLater row.action (update row).action)
    (written : next = if noted then (world.change changed update).note (.recorded changed) else world.change changed update)
    (status : ((update row).action.status = .applied ∨ (update row).action.status = .reversed) ↔
      noted = true ∨ row.action.status = .applied ∨ row.action.status = .reversed)
    (landed : noted = true → LandedWhole homes world (update row).action) :
    Sound parseUuid accounts homes next opens ∧ Later world next := by
  obtain ⟨inLedger, named⟩ := find_listed world found
  have find : next.find = (world.change changed update).find := by
    subst written
    cases noted <;> rfl
  have ledger : next.ledger = (world.change changed update).ledger := by
    subst written
    cases noted <;> rfl
  have log : next.log = world.log ++ (if noted then some (ModerationEvent.recorded changed) else none).toList := by
    subst written
    cases noted with
    | true => rfl
    | false => exact (List.append_nil _).symm
  have later : Later world next := {
    log := ⟨_, log.symm⟩
    now := by
      subst written
      cases noted <;> exact UtcMillis.le_refl _
    rows := by
      intro id old there
      rw [find, find_change world changed update keeps, there]
      refine ⟨if old.action.id = changed then update old else old, rfl, ?_⟩
      by_cases here : old.action.id = changed
      · obtain ⟨_, named'⟩ := find_listed world there
        have same : old = row := Option.some.inj (there.symm.trans (by rw [← found, ← here, named']))
        rw [if_pos here]
        exact same ▸ onward
      · rw [if_neg here]
        exact row_later_refl
    catalogId := by
      subst written
      cases noted <;> rfl
    roomKind := by
      subst written
      cases noted <;> rfl }
  have listed : ∀ row ∈ next.ledger, next.find row.action.id = some row := by
    rw [ledger, find]
    exact listed_change world sound.listed keeps
  refine ⟨sound_step world next sound later log listed ?_ ?_ ?_ ?_, later⟩
  · intro id
    rw [find, find_change world changed update keeps, log]
    by_cases here : id = changed
    · subst here
      rw [found]
      simp only [Option.map_some, Option.some.injEq, exists_eq_left', named, if_true]
      rw [status, List.mem_append, sound.recorded id, found]
      cases noted <;> simp
    · have apart : ∀ old, world.find id = some old → old.action.id ≠ changed :=
        fun old there named' => here ((find_listed world there).2 ▸ named')
      rw [List.mem_append, sound.recorded id]
      constructor
      · rintro (⟨old, there, recorded⟩ | fresh)
        · exact ⟨old, by rw [there]; simp [apart old there], recorded⟩
        · cases noted
          · simp at fresh
          · exact absurd (by simpa using fresh) here
      · rintro ⟨left, there, recorded⟩
        obtain ⟨old, there', built⟩ := Option.map_eq_some_iff.mp there
        rw [if_neg (apart old there')] at built
        exact .inl ⟨old, there', built ▸ recorded⟩
  · intro left there fresh
    cases noted with
    | false => cases fresh
    | true =>
      have named' : changed = left.action.id := by simpa using fresh
      have same := listed left there
      rw [← named', find, find_change world changed update keeps, found] at same
      simp only [Option.map_some, named, if_true, Option.some.injEq] at same
      exact landed_whole_later world next later (same ▸ same_identity_refl _) (landed rfl)
  · have none' : ((if noted then some (ModerationEvent.recorded changed) else none).bind openedRoom).toList = [] := by
      cases noted <;> rfl
    rw [none', List.append_nil]
    subst written
    cases noted <;> exact List.Perm.refl _
  · intro event fresh
    cases noted with
    | false => cases fresh
    | true =>
      cases fresh
      trivial

theorem sound_reserved (rooms : List MatrixRoomId) (sound : Sound parseUuid accounts homes world opens)
    (none' : world.find action.id = none) (pending : action.status = .pending) :
    Sound parseUuid accounts homes (world.reserve action rooms) opens ∧ Later world (world.reserve action rooms) := by
  have later : Later world (world.reserve action rooms) := {
    log := List.prefix_append _ _
    now := UtcMillis.le_refl _
    rows := fun id row found => ⟨row, by rw [find_reserve, found]; rfl, row_later_refl⟩
    catalogId := rfl
    roomKind := rfl }
  have log : (world.reserve action rooms).log = world.log ++ (some (ModerationEvent.reserved action.id rooms)).toList := rfl
  refine ⟨sound_step world _ sound later log ?_ ?_ (fun _ _ => nofun) (List.Perm.of_eq (List.append_nil _).symm) ?_, later⟩
  · exact listed_reserve world sound.listed none'
  · intro id
    have log : .recorded id ∈ (world.reserve action rooms).log ↔ .recorded id ∈ world.log := by
      simp [ModerationWorld.reserve, ModerationWorld.note]
    rw [log, find_reserve, sound.recorded id]
    by_cases here : action.id = id
    · subst here
      simp [none', pending]
    · simp [here]
  · rintro _ ⟨⟩
    exact ⟨_, by rw [find_reserve, none', if_pos rfl]; rfl⟩

end

end AgentRoom.Moderation
