import AgentRoom.Publication.Stores

namespace AgentRoom.Publication

open Library

def Short (eventId : MatrixEventId) : Prop := Network.lengthBetween 2 255 eventId.text = true

structure Fitted (rows : Submissions) : Prop extends SoundRows rows where
  short : ∀ row ∈ rows, ∀ eventId, row.eventId = some eventId → Short eventId

-- A submission id is a UUID of version 7, and a new event id fits the narrower column.
def Fitting (rows : Submissions) : SubmissionCall → Prop
  | .claim claim => Presence.isVersion7 claim.submissionId.uuid = true
  | .markAccepted submissionId eventId _ => eventId.text.toList.length ≤ 255 ∨
      ∀ row ∈ rows, row.submissionId = submissionId → row.eventId.isSome = true
  | .markSubmitUnknown _ | .markBound _ => True

theorem length_le_utf8_len (chars : List Char) : chars.length ≤ String.utf8Len chars := by
  induction chars with
  | nil => exact Nat.le_refl _
  | cons char rest ih =>
    have wide := char.utf8Size_pos
    simp only [List.length_cons, String.utf8Len_cons]
    omega

theorem transaction_length (transactionId : MatrixTransactionId) : Network.lengthBetween 1 255 transactionId.text = true := by
  have valid := transactionId.valid
  simp only [validTransactionId, Bool.and_eq_true, decide_eq_true_eq] at valid
  have within := length_le_utf8_len transactionId.text.toList
  rw [String.utf8Len_toList] at within
  have written : transactionId.text.toList ≠ [] := by
    intro empty
    have none := String.utf8Len_toList transactionId.text
    rw [empty] at none
    have least := valid.1.1
    simp at none
    omega
  have some := List.length_pos_iff.mpr written
  have most : maxTransactionIdLength = 255 := rfl
  simp only [Network.lengthBetween, Bool.and_eq_true, decide_eq_true_eq]
  omega

theorem event_length (valid : validEventId text = true) : 2 ≤ text.toList.length := by
  simp only [validEventId, Bool.and_eq_true, decide_eq_true_eq] at valid
  obtain ⟨⟨⟨wide, _⟩, sigil⟩, _⟩ := valid
  have size := String.utf8Len_toList text
  cases chars : text.toList with
  | nil =>
    rw [chars] at sigil
    cases sigil
  | cons first rest =>
    rw [chars] at sigil size
    cases sigil
    cases rest with
    | nil =>
      have one : String.utf8Len ['$'] = 1 := by decide
      omega
    | cons second more => simp

theorem short_iff (valid : validEventId eventId.text = true) : Short eventId ↔ eventId.text.toList.length ≤ 255 := by
  have long := event_length valid
  simp only [Short, Network.lengthBetween, Bool.and_eq_true, decide_eq_true_eq]
  exact ⟨fun both => both.2, fun most => ⟨long, most⟩⟩

section

variable {rows : Submissions}

abbrev asNetworkRows (rows : Submissions) : NetworkSubmissions := rows.map MessageSubmissionRecord.asNetwork

@[simp] theorem kind_as_network {first second : MessageSubmissionKind} : first.asNetwork = second.asNetwork ↔ first = second := by
  cases first <;> cases second <;> decide

theorem expects_event_iff (state : MessageSubmissionState) (eventId : Option MatrixEventId) :
    ((state.asNetwork = .accepted ∨ state.asNetwork = .bound) ↔ eventId.isSome = true) ↔
      expectsEvent state = eventId.isSome := by
  have kinds : (state.asNetwork = .accepted ∨ state.asNetwork = .bound) ↔ expectsEvent state = true := by
    cases state <;> decide
  rw [kinds]
  exact Bool.eq_iff_iff.symm

theorem checks_iff (row : MessageSubmissionRecord) (ordered : Presence.isVersion7 row.submissionId.uuid = true)
    (recorded : expectsEvent row.state = row.eventId.isSome) :
    Network.checks row.asNetwork = true ↔ ∀ eventId, row.eventId = some eventId → Short eventId := by
  have expected := (expects_event_iff row.state row.eventId).mpr recorded
  simp only [Network.checks, MessageSubmissionRecord.asNetwork, ordered, transaction_length, expected, Bool.true_and, decide_true]
  cases row.eventId with
  | none => simp
  | some eventId => simp [Short]

theorem load_listed_network (sound : SoundRows rows) (listed : row ∈ rows) :
    Network.load (asNetworkRows rows) row.submissionId = .ok row.asNetwork := by
  have found : rows.find? (·.submissionId = row.submissionId) = some row := find_key sound.ids row listed
  have found' : (asNetworkRows rows).find? (·.submissionId = row.submissionId) = some row.asNetwork := by
    rw [List.find?_map]
    exact congrArg (Option.map MessageSubmissionRecord.asNetwork) found
  simp [Network.load, found']

theorem load_absent (submissionId : MessageSubmissionId) (absent : ∀ row ∈ rows, row.submissionId ≠ submissionId) :
    loadBySubmission rows submissionId = .error .notFound ∧
      Network.load (asNetworkRows rows) submissionId = .error .notFound := by
  have missing : rows.find? (·.submissionId = submissionId) = none :=
    List.find?_eq_none.mpr fun row listed => by simpa using absent row listed
  have missing' : (asNetworkRows rows).find? (·.submissionId = submissionId) = none := by
    rw [List.find?_map]
    exact congrArg (Option.map MessageSubmissionRecord.asNetwork) missing
  simp [loadBySubmission, missing, Network.load, missing']

theorem write_listed (listed : row ∈ rows) (state : MessageSubmissionState) (eventId : Option MatrixEventId) :
    writeState rows row.submissionId state eventId = .ok (withState rows row.submissionId state eventId) :=
  if_pos (List.any_eq_true.mpr ⟨row, listed, by simp⟩)

theorem written_checks (sound : SoundRows rows) (listed : row ∈ rows) (expected : expectsEvent state = eventId.isSome) :
    (∀ other ∈ asNetworkRows rows, other.submissionId = row.submissionId →
      Network.checks { other with state := state.asNetwork, eventId } = true) ↔ ∀ now, eventId = some now → Short now := by
  have own := checks_iff { row with state, eventId } (sound.ordered row listed) expected
  constructor
  · intro all
    exact own.mp (all row.asNetwork (List.mem_map.mpr ⟨row, listed, rfl⟩) rfl)
  · intro short other there same
    obtain ⟨source, among, built⟩ := List.mem_map.mp there
    subst built
    have equal := key_unique _ rows sound.ids source row among listed same
    subst equal
    exact own.mpr short

theorem with_state_network (submissionId : MessageSubmissionId) (state : MessageSubmissionState) (eventId : Option MatrixEventId) :
    (asNetworkRows rows).map (fun row => if row.submissionId = submissionId then { row with state := state.asNetwork, eventId }
      else row) = asNetworkRows (withState rows submissionId state eventId) := by
  simp only [asNetworkRows, withState, List.map_map]
  apply List.map_congr_left
  intro row _
  by_cases own : row.submissionId = submissionId
  · simp [MessageSubmissionRecord.asNetwork, own]
  · simp [MessageSubmissionRecord.asNetwork, own]

theorem write_network (sound : SoundRows rows) (listed : row ∈ rows)
    (state : MessageSubmissionState) (eventId : Option MatrixEventId) (expected : expectsEvent state = eventId.isSome)
    (short : ∀ now, eventId = some now → Short now) :
    Network.writeState (asNetworkRows rows) row.submissionId state.asNetwork eventId =
      .ok (asNetworkRows (withState rows row.submissionId state eventId)) := by
  have fits := (ensure_ok RepositoryErrorKind.constraint _ ()).mpr
    ((written_checks sound listed expected).mpr short)
  rw [Network.writeState, fits, ← with_state_network]
  rfl

theorem write_network_refused (sound : SoundRows rows) (listed : row ∈ rows) (state : MessageSubmissionState)
    (expected : expectsEvent state = true) (long : ¬ Short eventId) :
    Network.writeState (asNetworkRows rows) row.submissionId state.asNetwork (some eventId) = .error .constraint := by
  have fails : ¬ ∀ other ∈ asNetworkRows rows, other.submissionId = row.submissionId →
      Network.checks { other with state := state.asNetwork, eventId := some eventId } = true := by
    intro all
    exact long ((written_checks sound listed expected).mp all eventId rfl)
  rw [Network.writeState, ensure, if_neg fails]
  rfl

end

section

variable {rows : Submissions}

def Agrees (rows : Submissions) (call : SubmissionCall) : Prop :=
  postgres (asNetworkRows rows) call =
    asNetworkAnswer (fun done => (asNetworkRows done.1, done.2.map MessageSubmissionRecord.asNetwork)) (sqlite rows call)

theorem stored_or_absent (rows : Submissions) (submissionId : MessageSubmissionId) :
    (∃ row ∈ rows, row.submissionId = submissionId) ∨ ∀ row ∈ rows, row.submissionId ≠ submissionId := by
  by_cases there : ∃ row ∈ rows, row.submissionId = submissionId
  · exact .inl there
  · exact .inr fun row listed own => there ⟨row, listed, own⟩

theorem state_as_network (first second : MessageSubmissionState) : first.asNetwork = second.asNetwork ↔ first = second := by
  cases first <;> cases second <;> decide

theorem unknown_agrees (fitted : Fitted rows) : Agrees rows (.markSubmitUnknown submissionId) := by
  rw [Agrees, sqlite, postgres, markUnknownRecord, Network.markSubmitUnknown]
  rcases stored_or_absent rows submissionId with ⟨row, listed, own⟩ | absent
  · subst own
    rw [load_listed fitted.toSoundRows row listed, load_listed_network fitted.toSoundRows listed]
    have same : row.asNetwork.state = .claimed ↔ row.state = .claimed := state_as_network row.state .claimed
    by_cases claimed : row.state = .claimed
    · have written := write_listed listed .submitUnknown none
      have written' := write_network fitted.toSoundRows listed .submitUnknown none rfl (fun now named => by cases named)
      simp only [Bind.bind, Except.bind, if_pos claimed, if_pos (same.mpr claimed), written]
      rw [show NetworkAgentSubmissionState.submitUnknown = MessageSubmissionState.submitUnknown.asNetwork from rfl, written']
      rfl
    · simp only [Bind.bind, Except.bind, if_neg claimed, if_neg (mt same.mp claimed)]
      rfl
  · obtain ⟨missing, missing'⟩ := load_absent submissionId absent
    rw [missing, missing']
    rfl

variable {claim : MessageSubmissionClaim}

theorem intends_network {row : MessageSubmissionRecord} :
    (row.asNetwork.kind = claim.asNetwork.kind ∧ row.asNetwork.fingerprint = claim.asNetwork.fingerprint ∧
      row.asNetwork.transactionId = claim.asNetwork.transactionId) ↔ Intends claim row :=
  and_congr_left' (kind_as_network)

theorem opened_checks : Network.checks (opened claim).asNetwork = true ↔ Presence.isVersion7 claim.submissionId.uuid = true := by
  constructor
  · intro passed
    simp only [Network.checks, Bool.and_eq_true] at passed
    exact passed.1.1.1
  · intro ordered
    exact (checks_iff (opened claim) ordered rfl).mpr fun eventId named => by cases named

theorem claim_network (rows : NetworkSubmissions) (claim : MessageSubmissionClaim) : postgres rows (.claim claim) = (do
      let (rows, inserted) ← Network.insertClaim rows (opened claim).asNetwork
      let record ← Network.load rows claim.submissionId
      if inserted then return (rows, .created record)
      else do
        ensure .conflict (record.kind = claim.asNetwork.kind ∧ record.fingerprint = claim.asNetwork.fingerprint ∧
          record.transactionId = claim.asNetwork.transactionId)
        return (rows, .existing record)) := rfl

theorem claim_network_stored (sound : SoundRows rows) {claim : MessageSubmissionClaim}
    (listed : row ∈ rows) (own : row.submissionId = claim.submissionId) : postgres (asNetworkRows rows) (.claim claim) = (do
      ensure .conflict (row.asNetwork.kind = claim.asNetwork.kind ∧ row.asNetwork.fingerprint = claim.asNetwork.fingerprint ∧
        row.asNetwork.transactionId = claim.asNetwork.transactionId)
      return (asNetworkRows rows, .existing row.asNetwork)) := by
  have ordered : Presence.isVersion7 claim.submissionId.uuid = true := own ▸ sound.ordered row listed
  have fits := (ensure_ok RepositoryErrorKind.constraint _ ()).mpr ((opened_checks).mpr ordered)
  have stored : (asNetworkRows rows).any (·.submissionId = claim.submissionId) = true :=
    List.any_eq_true.mpr ⟨row.asNetwork, List.mem_map.mpr ⟨row, listed, rfl⟩, decide_eq_true own⟩
  have kept : Network.insertClaim (asNetworkRows rows) (opened claim).asNetwork = .ok (asNetworkRows rows, false) := by
    rw [Network.insertClaim, fits]
    exact if_pos stored
  have loaded : Network.load (asNetworkRows rows) claim.submissionId = .ok row.asNetwork :=
    own ▸ load_listed_network sound listed
  rw [claim_network, kept]
  simp only [Bind.bind, Except.bind, loaded]
  rfl

theorem insert_network_new (ordered : Presence.isVersion7 claim.submissionId.uuid = true)
    (free : ∀ row ∈ rows, row.submissionId ≠ claim.submissionId) :
    Network.insertClaim (asNetworkRows rows) (opened claim).asNetwork = (do
      ensure .conflict (¬ (asNetworkRows rows).any (·.transactionId = claim.transactionId) = true)
      return (asNetworkRows rows ++ [(opened claim).asNetwork], true)) := by
  have fits := (ensure_ok RepositoryErrorKind.constraint _ ()).mpr ((opened_checks).mpr ordered)
  have absent : ¬ (asNetworkRows rows).any (·.submissionId = claim.submissionId) = true := by
    intro stored
    obtain ⟨other, there, own⟩ := List.any_eq_true.mp stored
    obtain ⟨row, listed, built⟩ := List.mem_map.mp there
    subst built
    exact free row listed (of_decide_eq_true own)
  rw [Network.insertClaim, fits]
  exact if_neg absent

theorem transaction_taken : (asNetworkRows rows).any (·.transactionId = claim.transactionId) = true ↔
      ∃ row ∈ rows, row.transactionId = claim.transactionId := by
  rw [asNetworkRows, List.any_map, List.any_eq_true]
  exact exists_congr fun row => and_congr_right fun _ => decide_eq_true_iff

theorem load_new (free : ∀ row ∈ rows, row.submissionId ≠ claim.submissionId) :
    Network.load (asNetworkRows (rows ++ [opened claim])) claim.submissionId = .ok (opened claim).asNetwork := by
  have none : rows.find? ((fun row => row.submissionId = claim.submissionId) ∘ MessageSubmissionRecord.asNetwork) = .none :=
    List.find?_eq_none.mpr fun row listed own => free row listed (of_decide_eq_true own)
  simp [Network.load, List.find?_append, none, MessageSubmissionRecord.asNetwork, opened]

theorem claim_agrees (fitted : Fitted rows) (claim : MessageSubmissionClaim)
    (ordered : Presence.isVersion7 claim.submissionId.uuid = true) : Agrees rows (.claim claim) := by
  rw [Agrees, sqlite]
  rcases claim_record_cases fitted.toSoundRows claim ordered with ⟨row, listed, own, intends, answer⟩ |
    ⟨row, listed, own, differs, answer⟩ | ⟨free, ⟨row, listed, taken⟩, answer⟩ | ⟨free, unused, answer⟩
  · rw [answer, claim_network_stored fitted.toSoundRows listed own, ensure, if_pos ((intends_network).mpr intends)]
    rfl
  · rw [answer, claim_network_stored fitted.toSoundRows listed own, ensure, if_neg (mt (intends_network).mp differs)]
    rfl
  · have refused : Network.insertClaim (asNetworkRows rows) (opened claim).asNetwork = .error .conflict := by
      rw [insert_network_new ordered free, ensure, if_neg (not_not.mpr ((transaction_taken).mpr ⟨row, listed, taken⟩))]
      rfl
    rw [answer, claim_network, refused]
    rfl
  · have inserted : Network.insertClaim (asNetworkRows rows) (opened claim).asNetwork =
        .ok (asNetworkRows (rows ++ [opened claim]), true) := by
      have unique : ¬ (asNetworkRows rows).any (·.transactionId = claim.transactionId) = true := by
        intro taken
        obtain ⟨row, listed, same⟩ := (transaction_taken).mp taken
        exact unused row listed same
      rw [insert_network_new ordered free, ensure, if_pos unique, asNetworkRows, asNetworkRows, List.map_append]
      rfl
    rw [answer, claim_network, inserted]
    simp only [Bind.bind, Except.bind, load_new free]
    rfl

theorem stored_event_short (fitted : Fitted rows)
    (fitting : Fitting rows (.markAccepted submissionId eventId valid)) (listed : row ∈ rows) (own : row.submissionId = submissionId)
    (compatible : row.eventId.all (· = eventId) = true) : Short eventId := by
  rcases fitting with short | named
  · exact (short_iff valid).mpr short
  · obtain ⟨earlier, known⟩ := Option.isSome_iff_exists.mp (named row listed own)
    rw [known] at compatible
    have same : earlier = eventId := by simpa using compatible
    exact same ▸ fitted.short row listed earlier known

theorem accepted_agrees (fitted : Fitted rows) (fitting : Fitting rows (.markAccepted submissionId eventId valid)) :
    Agrees rows (.markAccepted submissionId eventId valid) := by
  rw [Agrees, sqlite, postgres, markAcceptedRecord, Network.markAccepted]
  rcases stored_or_absent rows submissionId with ⟨row, listed, own⟩ | absent
  · have short := stored_event_short fitted fitting listed own
    subst own
    rw [load_listed fitted.toSoundRows row listed, load_listed_network fitted.toSoundRows listed]
    simp only [Bind.bind, Except.bind, acceptEvent, Network.accept, ensureCompatibleEventId]
    have same : row.asNetwork.state = .bound ↔ row.state = .bound := state_as_network row.state .bound
    by_cases compatible : row.eventId.all (· = eventId) = true
    · have named : row.asNetwork.eventId.all (· = eventId) = true := compatible
      rw [ensure, if_pos named, ensure, if_pos compatible]
      by_cases bound : row.state = .bound
      · simp only [bound, same.mpr bound, ne_eq, not_true_eq_false, if_false]
        rfl
      · have written := write_listed listed .accepted (some eventId)
        have written' := write_network fitted.toSoundRows listed .accepted (some eventId) rfl
          (fun now built => Option.some.inj built ▸ short compatible)
        simp only [ne_eq, bound, mt same.mp bound, not_false_eq_true, if_true, written]
        have written'' : Network.writeState (asNetworkRows rows) row.asNetwork.submissionId .accepted (some eventId) =
          .ok (asNetworkRows (withState rows row.submissionId .accepted (some eventId))) := written'
        simp only [written'']
        rfl
    · have differs : ¬ row.asNetwork.eventId.all (· = eventId) = true := compatible
      rw [ensure, if_neg differs, ensure, if_neg compatible]
      rfl
  · obtain ⟨missing, missing'⟩ := load_absent submissionId absent
    rw [missing, missing']
    rfl

theorem bind_state (row : MessageSubmissionRecord) (recorded : expectsEvent row.state = row.eventId.isSome) :
    (row.eventId = none ∧ (row.asNetwork.state = .claimed ∨ row.asNetwork.state = .submitUnknown)) ∨
      ∃ eventId, row.eventId = some eventId ∧ ((row.state = .accepted ∧ row.asNetwork.state = .accepted) ∨
        (row.state = .bound ∧ row.asNetwork.state = .bound)) := by
  cases state : row.state <;> cases named : row.eventId <;> rw [state, named] at recorded <;>
    simp_all [MessageSubmissionRecord.asNetwork, MessageSubmissionState.asNetwork, expectsEvent]

theorem bound_agrees (fitted : Fitted rows) : Agrees rows (.markBound submissionId) := by
  rw [Agrees, sqlite, postgres, markBoundRecord, Network.markBound]
  rcases stored_or_absent rows submissionId with ⟨row, listed, own⟩ | absent
  · subst own
    rw [load_listed fitted.toSoundRows row listed, load_listed_network fitted.toSoundRows listed]
    have network : row.asNetwork.eventId = row.eventId := rfl
    simp only [Bind.bind, Except.bind, network]
    rcases bind_state row (fitted.recorded row listed) with ⟨none, early | early⟩ |
      ⟨eventId, named, ⟨accepted, accepted'⟩ | ⟨bound, bound'⟩⟩
    · simp only [none, early]
      rfl
    · simp only [none, early]
      rfl
    · have written := write_listed listed .bound (some eventId)
      have written' : Network.writeState (asNetworkRows rows) row.submissionId .bound (some eventId) =
          .ok (asNetworkRows (withState rows row.submissionId .bound (some eventId))) :=
        write_network fitted.toSoundRows listed .bound (some eventId) rfl
          (fun now built => Option.some.inj built ▸ fitted.short row listed eventId named)
      simp only [named, accepted, accepted', Option.elim, written, written']
      rfl
    · simp only [named, bound, bound']
      rfl
  · obtain ⟨missing, missing'⟩ := load_absent submissionId absent
    rw [missing, missing']
    rfl

theorem fitting_agrees (fitted : Fitted rows) (fitting : Fitting rows call) : Agrees rows call := by
  cases call with
  | claim claim => exact claim_agrees fitted claim fitting
  | markSubmitUnknown submissionId => exact unknown_agrees fitted
  | markAccepted submissionId eventId valid => exact accepted_agrees fitted fitting
  | markBound submissionId => exact bound_agrees fitted

theorem unfitting_constraint (fitted : Fitted rows) (unfitting : ¬ Fitting rows call) :
    postgres (asNetworkRows rows) call = .error .constraint := by
  cases call with
  | claim claim =>
    have fails : ¬ Network.checks (opened claim).asNetwork = true := mt (opened_checks).mp unfitting
    rw [claim_network, Network.insertClaim, ensure, if_neg fails]
    rfl
  | markAccepted submissionId eventId valid =>
    obtain ⟨long, unnamed⟩ := not_or.mp unfitting
    obtain ⟨row, rest⟩ := not_forall.mp unnamed
    obtain ⟨listed, rest⟩ := Classical.not_imp.mp rest
    obtain ⟨own, missing⟩ := Classical.not_imp.mp rest
    have nothing : row.eventId = none := by simpa using missing
    have refused := write_network_refused fitted.toSoundRows listed .accepted rfl
      (mt (short_iff valid).mp long)
    have refused' : Network.writeState (asNetworkRows rows) row.asNetwork.submissionId .accepted (some eventId) =
      .error .constraint := refused
    have named : row.asNetwork.eventId.all (· = eventId) = true := by
      rw [show row.asNetwork.eventId = none from nothing]
      rfl
    have unbound : ¬ row.asNetwork.state = .bound := by
      intro bound
      have recorded := fitted.recorded row listed
      rw [(state_as_network row.state .bound).mp bound, nothing] at recorded
      cases recorded
    subst own
    rw [postgres, Network.markAccepted, load_listed_network fitted.toSoundRows listed]
    simp only [Bind.bind, Except.bind, Network.accept]
    rw [ensure, if_pos named]
    simp [unbound, refused']
  | markSubmitUnknown submissionId => exact absurd trivial unfitting
  | markBound submissionId => exact absurd trivial unfitting

theorem answer_never_constraint : asNetworkAnswer change answer ≠ .error .constraint := by
  cases answer with
  | ok value => exact fun same => by cases same
  | error kind => cases kind <;> exact fun same => by cases same

theorem writes_fitted (fitted : Fitted rows) (writes : Writes (fun _ eventId => Short eventId) rows next) : Fitted next where
  toSoundRows := writes_sound fitted.toSoundRows writes
  short := writes_named fitted.short fitted.toSoundRows writes

theorem accepted_fitted (fitted : Fitted rows) (fitting : Fitting rows (.markAccepted submissionId eventId valid))
    (run : markAcceptedRecord rows submissionId eventId = .ok (next, record)) : Fitted next := by
  obtain ⟨row, loaded, rest⟩ := unbind run
  obtain ⟨listed, own⟩ := load_ok loaded
  obtain ⟨_, compatible, _⟩ := unbind rest
  rw [ensureCompatibleEventId, ensure_ok] at compatible
  have short := stored_event_short fitted fitting listed own compatible
  exact writes_fitted fitted (accept_event_writes fitted.toSoundRows listed short rest).1

theorem sqlite_fitted (fitted : Fitted rows) (fitting : Fitting rows call) : Fitted (left rows (sqlite rows call)) := by
  cases call with
  | claim claim =>
    rw [sqlite]
    rcases claim_record_cases fitted.toSoundRows claim fitting with ⟨_, _, _, _, answer⟩ | ⟨_, _, _, _, answer⟩ |
      ⟨_, _, answer⟩ | ⟨free, unused, answer⟩
    · rw [answer]
      exact fitted
    · rw [answer]
      exact fitted
    · rw [answer]
      exact fitted
    · rw [answer]
      exact writes_fitted fitted (.claimed claim fitting free unused)
  | markSubmitUnknown submissionId =>
    rw [sqlite]
    cases run : markUnknownRecord rows submissionId with
    | error kind => exact fitted
    | ok done => exact writes_fitted fitted (mark_unknown_writes fitted.toSoundRows run)
  | markAccepted submissionId eventId valid =>
    rw [sqlite]
    cases run : markAcceptedRecord rows submissionId eventId with
    | error kind => exact fitted
    | ok done => exact accepted_fitted fitted fitting run
  | markBound submissionId =>
    rw [sqlite]
    cases run : markBoundRecord rows submissionId with
    | error kind => exact fitted
    | ok done => exact writes_fitted fitted (mark_bound_writes run)

end

abbrev SqliteAnswer := StoreResult (SubmissionAnswer MessageSubmissionRecord)

-- A run of the Bridge's store, told of the control plane's.
def translated (run : Submissions × List SqliteAnswer) :
    NetworkSubmissions × List (Network.Result (SubmissionAnswer NetworkAgentSubmissionRecord)) :=
  (asNetworkRows run.1, run.2.map (asNetworkAnswer (SubmissionAnswer.map MessageSubmissionRecord.asNetwork)))

def AllFitting (rows : Submissions) (calls : List SubmissionCall) : Prop :=
  ∀ before call later, calls = before ++ call :: later → Fitting (answers sqlite rows before).1 call

theorem fitted_empty : Fitted [] where
  ordered := by simp
  ids := List.nodup_nil
  transactions := List.nodup_nil
  recorded := by simp
  short := by simp

theorem all_fitting_cons (rows : Submissions) (call : SubmissionCall) (calls : List SubmissionCall) :
    AllFitting rows (call :: calls) ↔ Fitting rows call ∧ AllFitting (left rows (sqlite rows call)) calls := by
  constructor
  · intro all
    refine ⟨all [] call calls rfl, fun before next later split => ?_⟩
    exact all (call :: before) next later (by rw [split]; rfl)
  · rintro ⟨first, rest⟩ before next later split
    cases before with
    | nil =>
      cases split
      exact first
    | cons _ before =>
      cases split
      exact rest before next later rfl

theorem agrees_step (agrees : Agrees rows call) :
    left (asNetworkRows rows) (postgres (asNetworkRows rows) call) = asNetworkRows (left rows (sqlite rows call)) ∧
      (postgres (asNetworkRows rows) call).map Prod.snd =
        asNetworkAnswer (SubmissionAnswer.map MessageSubmissionRecord.asNetwork) ((sqlite rows call).map Prod.snd) := by
  rw [Agrees] at agrees
  rw [agrees]
  cases sqlite rows call with
  | ok done => exact ⟨rfl, rfl⟩
  | error kind => exact ⟨rfl, rfl⟩

theorem answers_agree_iff :
    ∀ rows, Fitted rows → (answers postgres (asNetworkRows rows) calls = translated (answers sqlite rows calls) ↔
      AllFitting rows calls) := by
  induction calls with
  | nil =>
    intro rows _
    refine ⟨fun _ before call later split => ?_, fun _ => rfl⟩
    cases before <;> cases split
  | cons call calls ih =>
    intro rows fitted
    rw [all_fitting_cons]
    by_cases fitting : Fitting rows call
    · obtain ⟨next, answer⟩ := agrees_step (fitting_agrees fitted fitting)
      have rest := ih _ (sqlite_fitted fitted fitting)
      rw [answers, answers, next, answer]
      constructor
      · intro same
        refine ⟨fitting, rest.mp ?_⟩
        injection same with table said
        injection said with _ later
        exact Prod.ext table later
      · rintro ⟨_, later⟩
        have same := rest.mpr later
        simp [same, translated]
    · constructor
      · intro same
        injection same with _ said
        injection said with first _
        rw [unfitting_constraint fitted fitting] at first
        exact absurd first.symm (answer_never_constraint)
      · rintro ⟨first, _⟩
        exact absurd first fitting

-- The two stores answer alike exactly as long as the narrower one has room.
theorem stores_agree_iff (calls : List SubmissionCall) :
    answers postgres [] calls = translated (answers sqlite [] calls) ↔ AllFitting [] calls :=
  answers_agree_iff [] fitted_empty

def firstClaim : MessageSubmissionClaim where
  submissionId := ⟨0x019b76daa80070008000000000000005⟩
  kind := .preview
  fingerprint := ⟨0⟩
  transactionId := ⟨"agent-room-preview-019b76da-a800-7000-8000-000000000005", by decide +kernel⟩

def longEventId : MatrixEventId := ⟨String.ofList ('$' :: List.replicate 299 'a')⟩

theorem long_event_chars : longEventId.text.toList = '$' :: List.replicate 299 'a' := String.toList_ofList

theorem long_event_valid : validEventId longEventId.text = true := by
  have size : longEventId.text.utf8ByteSize = 300 := by
    rw [← String.utf8Len_toList, long_event_chars]
    decide +kernel
  rw [validEventId, size, long_event_chars]
  decide +kernel

-- The homeserver's event is recorded in one store and turned away by the other.
theorem long_event_ids_disagree : ¬ ∀ calls, answers postgres [] calls = translated (answers sqlite [] calls) := by
  intro agree
  have fitting := (answers_agree_iff [] fitted_empty).mp
    (agree [.claim firstClaim, .markAccepted firstClaim.submissionId longEventId long_event_valid])
  rcases fitting [.claim firstClaim] _ [] rfl with short | named
  · rw [long_event_chars, List.length_cons, List.length_replicate] at short
    omega
  · have recorded := named (opened firstClaim) (by decide +kernel) rfl
    cases recorded

end AgentRoom.Publication
