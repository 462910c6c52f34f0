import AgentRoom.Library.Relation
import AgentRoom.Publication.Submissions

namespace AgentRoom.Publication

open Library

structure SoundRows (rows : Submissions) : Prop where
  ordered : ∀ row ∈ rows, Presence.isVersion7 row.submissionId.uuid = true
  ids : (rows.map (·.submissionId)).Nodup
  transactions : (rows.map (·.transactionId)).Nodup
  recorded : ∀ row ∈ rows, expectsEvent row.state = row.eventId.isSome

def MessageSubmissionState.rank : MessageSubmissionState → Nat
  | .claimed => 0
  | .submitUnknown => 1
  | .accepted => 2
  | .bound => 3

structure Advanced (row after : MessageSubmissionRecord) : Prop where
  submissionId : after.submissionId = row.submissionId
  kind : after.kind = row.kind
  fingerprint : after.fingerprint = row.fingerprint
  transactionId : after.transactionId = row.transactionId
  state : row.state.rank ≤ after.state.rank
  eventId : ∀ eventId, row.eventId = some eventId → after.eventId = some eventId

def RowsLater (rows next : Submissions) : Prop := ∀ row ∈ rows, ∃ after ∈ next, Advanced row after

theorem advanced_refl : Advanced row row :=
  ⟨rfl, rfl, rfl, rfl, Nat.le_refl _, fun _ named => named⟩

theorem advanced_trans (earlier : Advanced first second) (later : Advanced second third) : Advanced first third where
  submissionId := later.submissionId.trans earlier.submissionId
  kind := later.kind.trans earlier.kind
  fingerprint := later.fingerprint.trans earlier.fingerprint
  transactionId := later.transactionId.trans earlier.transactionId
  state := Nat.le_trans earlier.state later.state
  eventId := fun eventId named => later.eventId eventId (earlier.eventId eventId named)

theorem rows_later_refl : RowsLater rows rows := fun row listed => ⟨row, listed, advanced_refl⟩

theorem rows_later_trans (earlier : RowsLater first second) (later : RowsLater second third) : RowsLater first third := by
  intro row listed
  obtain ⟨middle, among, step⟩ := earlier row listed
  obtain ⟨last, there, step'⟩ := later middle among
  exact ⟨last, there, advanced_trans step step'⟩

def opened (claim : MessageSubmissionClaim) : MessageSubmissionRecord where
  submissionId := claim.submissionId
  kind := claim.kind
  fingerprint := claim.fingerprint
  transactionId := claim.transactionId
  state := .claimed
  eventId := none

def withState (rows : Submissions) (submissionId : MessageSubmissionId) (state : MessageSubmissionState)
    (eventId : Option MatrixEventId) : Submissions :=
  rows.map fun row => if row.submissionId = submissionId then { row with state, eventId } else row

def Intends (claim : MessageSubmissionClaim) (row : MessageSubmissionRecord) : Prop :=
  row.kind = claim.kind ∧ row.fingerprint = claim.fingerprint ∧ row.transactionId = claim.transactionId

-- All that a call of the store does to its rows. An event is only written where
-- it is known to be the one of the row's transaction.
inductive Writes (accepted : MatrixTransactionId → MatrixEventId → Prop) (rows : Submissions) : Submissions → Prop where
  | same : Writes accepted rows rows
  | claimed (claim : MessageSubmissionClaim) (ordered : Presence.isVersion7 claim.submissionId.uuid = true)
      (free : ∀ row ∈ rows, row.submissionId ≠ claim.submissionId)
      (unused : ∀ row ∈ rows, row.transactionId ≠ claim.transactionId) : Writes accepted rows (rows ++ [opened claim])
  | moved (row : MessageSubmissionRecord) (state : MessageSubmissionState) (eventId : Option MatrixEventId) (listed : row ∈ rows)
      (onward : row.state.rank ≤ state.rank) (expected : expectsEvent state = eventId.isSome)
      (kept : ∀ earlier, row.eventId = some earlier → eventId = some earlier)
      (known : ∀ now, eventId = some now → row.eventId = some now ∨ accepted row.transactionId now) :
      Writes accepted rows (withState rows row.submissionId state eventId)

theorem mem_with_state {eventId : Option MatrixEventId} {after : MessageSubmissionRecord}
    (listed : after ∈ withState rows submissionId state eventId) : ∃ row ∈ rows, (row.submissionId ≠ submissionId ∧ after = row) ∨
      (row.submissionId = submissionId ∧ after = { row with state, eventId }) := by
  obtain ⟨row, there, built⟩ := List.mem_map.mp listed
  by_cases own : row.submissionId = submissionId
  · rw [if_pos own] at built
    exact ⟨row, there, .inr ⟨own, built.symm⟩⟩
  · rw [if_neg own] at built
    exact ⟨row, there, .inl ⟨own, built.symm⟩⟩

theorem with_state_keys (rows : Submissions) (submissionId : MessageSubmissionId) (state : MessageSubmissionState)
    (eventId : Option MatrixEventId) :
    (withState rows submissionId state eventId).map (·.submissionId) = rows.map (·.submissionId) ∧
      (withState rows submissionId state eventId).map (·.transactionId) = rows.map (·.transactionId) := by
  simp only [withState, List.map_map]
  constructor
  · apply List.map_congr_left
    intro row _
    by_cases own : row.submissionId = submissionId <;> simp [own]
  · apply List.map_congr_left
    intro row _
    by_cases own : row.submissionId = submissionId <;> simp [own]

theorem writes_sound (sound : SoundRows rows) (writes : Writes accepted rows next) : SoundRows next := by
  cases writes with
  | same => exact sound
  | claimed claim ordered free unused =>
    refine ⟨?_, keys_append sound.ids free, keys_append sound.transactions unused, ?_⟩
    · intro row listed
      rcases List.mem_append.mp listed with old | new
      · exact sound.ordered row old
      · rw [List.mem_singleton.mp new]
        exact ordered
    · intro row listed
      rcases List.mem_append.mp listed with old | new
      · exact sound.recorded row old
      · rw [List.mem_singleton.mp new]
        rfl
  | moved row state eventId listed onward expected kept known =>
    obtain ⟨ids, transactions⟩ := with_state_keys rows row.submissionId state eventId
    refine ⟨fun after there => ?_, ids ▸ sound.ids, transactions ▸ sound.transactions, fun after there => ?_⟩
    · obtain ⟨other, was, ⟨_, same⟩ | ⟨_, same⟩⟩ := mem_with_state there
      · exact same ▸ sound.ordered other was
      · exact same ▸ sound.ordered other was
    · obtain ⟨other, was, ⟨_, same⟩ | ⟨_, same⟩⟩ := mem_with_state there
      · exact same ▸ sound.recorded other was
      · exact same ▸ expected

theorem writes_later (sound : SoundRows rows) (writes : Writes accepted rows next) : RowsLater rows next := by
  cases writes with
  | same => exact rows_later_refl
  | claimed claim ordered free unused => exact fun row listed => ⟨row, List.mem_append_left _ listed, advanced_refl⟩
  | moved row state eventId listed onward expected kept known =>
    intro other was
    by_cases own : other.submissionId = row.submissionId
    · have same := key_unique _ rows sound.ids other row was listed own
      subst same
      refine ⟨{ other with state, eventId }, List.mem_map.mpr ⟨other, was, if_pos rfl⟩, ?_⟩
      exact ⟨rfl, rfl, rfl, rfl, onward, kept⟩
    · exact ⟨other, List.mem_map.mpr ⟨other, was, if_neg own⟩, advanced_refl⟩

theorem writes_named (named : ∀ row ∈ rows, ∀ eventId, row.eventId = some eventId → accepted row.transactionId eventId)
    (sound : SoundRows rows) (writes : Writes accepted rows next) :
    ∀ row ∈ next, ∀ eventId, row.eventId = some eventId → accepted row.transactionId eventId := by
  cases writes with
  | same => exact named
  | claimed claim ordered free unused =>
    intro row listed eventId written
    rcases List.mem_append.mp listed with old | new
    · exact named row old eventId written
    · rw [List.mem_singleton.mp new] at written
      cases written
  | moved row state eventId listed onward expected kept known =>
    intro after there now written
    obtain ⟨other, was, ⟨_, same⟩ | ⟨own, same⟩⟩ := mem_with_state there
    · rw [same] at written ⊢
      exact named other was now written
    · have equal := key_unique _ rows sound.ids other row was listed own
      subst equal
      rw [same] at written ⊢
      rcases known now written with earlier | fresh
      · exact named other was now earlier
      · exact fresh

theorem load_ok
    (loaded : loadBySubmission rows submissionId = .ok record) : record ∈ rows ∧ record.submissionId = submissionId := by
  rw [loadBySubmission] at loaded
  cases found : rows.find? (·.submissionId = submissionId) with
  | none => simp [found] at loaded
  | some row =>
    simp only [found] at loaded
    obtain ⟨_, _, rest⟩ := unbind loaded
    obtain ⟨_, _, built⟩ := unbind rest
    cases built
    exact ⟨List.mem_of_find?_eq_some found, by simpa using List.find?_some found⟩

theorem decode_listed (sound : SoundRows rows) (listed : row ∈ rows) : decodeRecord row = .ok row := by
  have fits : ensureRecordInvariant row = .ok () := (ensure_ok _ _ _).mpr (sound.recorded row listed)
  have ordered : decodeSubmissionId row.submissionId = .ok () := (ensure_ok _ _ _).mpr (sound.ordered row listed)
  simp only [decodeRecord, ordered, fits]
  rfl

theorem load_listed (sound : SoundRows rows) (row : MessageSubmissionRecord) (listed : row ∈ rows) :
    loadBySubmission rows row.submissionId = .ok row := by
  have found : rows.find? (·.submissionId = row.submissionId) = some row := find_key sound.ids row listed
  simp only [loadBySubmission, found]
  exact decode_listed sound listed

theorem write_state_ok {eventId : Option MatrixEventId} (written : writeState rows submissionId state eventId = .ok next) :
    next = withState rows submissionId state eventId := by
  rw [writeState] at written
  split at written
  case isTrue => exact (Except.ok.inj written).symm
  case isFalse => cases written

theorem claim_record_cases (sound : SoundRows rows) (claim : MessageSubmissionClaim)
    (ordered : Presence.isVersion7 claim.submissionId.uuid = true) :
    (∃ row ∈ rows, row.submissionId = claim.submissionId ∧ Intends claim row ∧
      claimRecord rows claim = .ok (rows, .existing row)) ∨
    (∃ row ∈ rows, row.submissionId = claim.submissionId ∧ ¬ Intends claim row ∧ claimRecord rows claim = .error .conflict) ∨
    ((∀ row ∈ rows, row.submissionId ≠ claim.submissionId) ∧ (∃ row ∈ rows, row.transactionId = claim.transactionId) ∧
      claimRecord rows claim = .error .conflict) ∨
    ((∀ row ∈ rows, row.submissionId ≠ claim.submissionId) ∧ (∀ row ∈ rows, row.transactionId ≠ claim.transactionId) ∧
      claimRecord rows claim = .ok (rows ++ [opened claim], .created (opened claim))) := by
  by_cases there : ∃ row ∈ rows, row.submissionId = claim.submissionId
  · obtain ⟨row, listed, own⟩ := there
    have kept : insertClaim rows claim = .ok (rows, false) := if_pos (List.any_eq_true.mpr ⟨row, listed, by simpa using own⟩)
    have loaded : loadBySubmission rows claim.submissionId = .ok row := own ▸ load_listed sound row listed
    by_cases intends : Intends claim row
    · have fits : ensureSameIntent row claim = .ok () := if_pos intends
      refine .inl ⟨row, listed, own, intends, ?_⟩
      simp [claimRecord, kept, loaded, fits, Bind.bind, Except.bind, pure, Except.pure]
    · have differs : ensureSameIntent row claim = .error .conflict := if_neg intends
      refine .inr (.inl ⟨row, listed, own, intends, ?_⟩)
      simp [claimRecord, kept, loaded, differs, Bind.bind, Except.bind]
  · have free : ∀ row ∈ rows, row.submissionId ≠ claim.submissionId := fun row listed own => there ⟨row, listed, own⟩
    have absent : ¬ rows.any (·.submissionId = claim.submissionId) = true := by simpa using free
    by_cases taken : ∃ row ∈ rows, row.transactionId = claim.transactionId
    · obtain ⟨row, listed, same⟩ := taken
      have refused : insertClaim rows claim = .error .conflict := by
        rw [insertClaim, if_neg absent, if_pos (List.any_eq_true.mpr ⟨row, listed, by simpa using same⟩)]
      refine .inr (.inr (.inl ⟨free, ⟨row, listed, same⟩, ?_⟩))
      simp [claimRecord, refused, Bind.bind, Except.bind]
    · have unused : ∀ row ∈ rows, row.transactionId ≠ claim.transactionId := fun row listed same => taken ⟨row, listed, same⟩
      have inserted : insertClaim rows claim = .ok (rows ++ [opened claim], true) := by
        rw [insertClaim, if_neg absent, if_neg (by simpa using unused)]
        rfl
      have writes : Writes (fun _ _ => True) rows (rows ++ [opened claim]) := .claimed claim ordered free unused
      have loaded := load_listed (writes_sound sound writes) (opened claim) (by simp)
      have loaded' : loadBySubmission (rows ++ [opened claim]) claim.submissionId = .ok (opened claim) := loaded
      refine .inr (.inr (.inr ⟨free, unused, ?_⟩))
      simp [claimRecord, inserted, loaded', Bind.bind, Except.bind, pure, Except.pure]

theorem mark_unknown_writes (sound : SoundRows rows)
    (run : markUnknownRecord rows submissionId = .ok (next, record)) : Writes accepted rows next := by
  obtain ⟨row, loaded, rest⟩ := unbind run
  obtain ⟨listed, own⟩ := load_ok loaded
  split at rest
  case isTrue claimed =>
    obtain ⟨rows', written, built⟩ := unbind rest
    cases built
    have nothing : row.eventId = none := by
      have recorded := sound.recorded row listed
      rw [claimed] at recorded
      simpa [expectsEvent] using recorded.symm
    rw [write_state_ok written, ← own]
    refine .moved row .submitUnknown none listed (by rw [claimed]; decide) rfl ?_ ?_
    · intro earlier named
      rw [nothing] at named
      cases named
    · intro now named
      cases named
  case isFalse =>
    cases rest
    exact .same

theorem accept_event_writes (sound : SoundRows rows) (listed : row ∈ rows) (known : accepted row.transactionId eventId)
    (run : acceptEvent rows row eventId = .ok (next, record)) :
    Writes accepted rows next ∧ ∃ after ∈ next, after.submissionId = row.submissionId ∧ after.eventId = some eventId := by
  obtain ⟨_, compatible, rest⟩ := unbind run
  rw [ensureCompatibleEventId, ensure_ok] at compatible
  have kept : ∀ earlier, row.eventId = some earlier → some eventId = some earlier := by
    intro earlier named
    rw [named] at compatible
    exact congrArg some (by simpa using compatible : earlier = eventId).symm
  split at rest
  case isTrue unbound =>
    obtain ⟨rows', written, built⟩ := unbind rest
    cases built
    rw [write_state_ok written]
    refine ⟨.moved row .accepted (some eventId) listed ?_ rfl kept ?_, ?_⟩
    · cases state : row.state with
      | bound => exact absurd state unbound
      | _ => decide
    · rintro now ⟨⟩
      exact .inr known
    · exact ⟨{ row with state := .accepted, eventId := some eventId }, List.mem_map.mpr ⟨row, listed, if_pos rfl⟩, rfl, rfl⟩
  case isFalse bound =>
    cases rest
    have recorded := sound.recorded row listed
    rw [not_not.mp bound] at recorded
    obtain ⟨earlier, named⟩ := Option.isSome_iff_exists.mp recorded.symm
    exact ⟨.same, row, listed, rfl, named.trans (kept earlier named).symm⟩

theorem mark_accepted_writes (sound : SoundRows rows)
    (known : ∀ row ∈ rows, row.submissionId = submissionId → accepted row.transactionId eventId)
    (run : markAcceptedRecord rows submissionId eventId = .ok (next, record)) :
    Writes accepted rows next ∧ ∃ after ∈ next, after.submissionId = submissionId ∧ after.eventId = some eventId := by
  obtain ⟨row, loaded, rest⟩ := unbind run
  obtain ⟨listed, own⟩ := load_ok loaded
  exact own ▸ accept_event_writes sound listed (known row listed own) rest

theorem mark_bound_writes (run : markBoundRecord rows submissionId = .ok (next, record)) : Writes accepted rows next := by
  obtain ⟨row, loaded, rest⟩ := unbind run
  obtain ⟨listed, own⟩ := load_ok loaded
  split at rest
  · cases rest
  · rename_i eventId named state
    obtain ⟨rows', written, built⟩ := unbind rest
    cases built
    rw [write_state_ok written, ← own]
    refine .moved row .bound (some eventId) listed (by rw [state]; decide) rfl ?_ ?_
    · intro earlier named'
      rw [← named', named]
    · rintro now ⟨⟩
      exact .inl named
  · cases rest
    exact .same
  · cases rest
  · cases rest

theorem observe_writes (sound : SoundRows rows) {record : Option MessageSubmissionRecord} (known : accepted transactionId eventId)
    (run : observeRecord rows transactionId eventId = .ok (next, record)) : Writes accepted rows next := by
  obtain ⟨found, loaded, rest⟩ := unbind run
  rw [loadByTransaction] at loaded
  cases there : rows.find? (·.transactionId = transactionId) with
  | none =>
    simp only [there] at loaded
    cases loaded
    cases rest
    exact .same
  | some row =>
    simp only [there] at loaded
    have listed := List.mem_of_find?_eq_some there
    have own : row.transactionId = transactionId := by simpa using List.find?_some there
    rw [decode_listed sound listed] at loaded
    cases loaded
    obtain ⟨⟨rows', record'⟩, accepts, built⟩ := unbind rest
    cases built
    exact (accept_event_writes sound listed (own ▸ known) accepts).1

end AgentRoom.Publication
