import AgentRoom.Projection.Stream

namespace AgentRoom

open Library

structure KeepsPlace (mutation : MessageProjectionMutation) (sequence : Nat) (row : IssueRow) : Prop where
  room : row.roomId = mutation.roomId
  event : row.eventId = some mutation.eventId
  reason : row.reason = .undecryptable
  place : row.reservedSequence = some sequence

structure Holds (roomId : MatrixRoomId) (done : List StreamItem) (written : List MessageProjectionMutation)
    (tables : Tables) : Prop where
  consistent : Consistent tables
  rooms : ∀ item ∈ done, item.mutation.roomId = roomId
  distinct : (done.map fun item => item.mutation.eventId).Nodup
  log : List.Forall₂ Recorded (firstWrites written) tables.events
  sources : ∀ mutation ∈ written, ∃ item ∈ done, item.mutation = mutation
  plain : ∀ item ∈ done, item.session = none → item.mutation ∈ written
  placed : ∀ event ∈ tables.events, ∃ (index : Nat) (item : StreamItem), done[index]? = some item ∧
    item.mutation ∈ written ∧ Recorded item.mutation event ∧ event.sequence = index + 1
  kept : ∀ row ∈ tables.issues, ∃ (index : Nat) (item : StreamItem), done[index]? = some item ∧
    item.mutation ∉ written ∧ KeepsPlace item.mutation (index + 1) row
  waiting : ∀ (index : Nat) (item : StreamItem), done[index]? = some item → item.mutation ∉ written →
    ∃ row ∈ tables.issues, KeepsPlace item.mutation (index + 1) row

theorem nothing_holds (roomId : MatrixRoomId) : Holds roomId [] [] Tables.empty where
  consistent := empty_consistent
  rooms := by simp
  distinct := by simp
  log := .nil
  sources := by simp
  plain := by simp
  placed := by simp [Tables.empty]
  kept := by simp [Tables.empty]
  waiting := by simp

section

variable {roomId : MatrixRoomId} {done : List StreamItem} {written : List MessageProjectionMutation} {tables : Tables}

variable {item other : StreamItem} {index : Nat} {next : Tables} {mutation : MessageProjectionMutation} {event : EventRow}
  {syncToken : MatrixSyncToken}

section

variable (holds : Holds roomId done written tables)
include holds

theorem position_unique {first second : Nat} (here : done[first]? = some one) (there : done[second]? = some other)
    (same : one.mutation.eventId = other.mutation.eventId) : first = second ∧ one = other := by
  have within : first < (done.map fun item => item.mutation.eventId).length := by
    rw [List.length_map]
    exact (List.getElem?_eq_some_iff.mp here).1
  have level : first = second := by
    apply (List.getElem?_inj within holds.distinct).mp
    rw [List.getElem?_map, List.getElem?_map, here, there, Option.map_some, Option.map_some, same]
  subst level
  rw [here] at there
  exact ⟨rfl, Option.some.inj there⟩

theorem written_placed (here : done[index]? = some item) (known : item.mutation ∈ written) :
    ∃ event ∈ tables.events, Recorded item.mutation event ∧ event.sequence = index + 1 := by
  obtain ⟨event, listed, recorded⟩ :=
    (recorded_stored _ tables.events holds.log).1 item.mutation ((mem_first_writes written).mpr known)
  obtain ⟨position, other, there, _, recorded', sequence⟩ := holds.placed event listed
  have same := (recorded_event_id recorded).symm.trans (recorded_event_id recorded')
  obtain ⟨level, _⟩ := position_unique holds here there same
  exact ⟨event, listed, recorded, level ▸ sequence⟩

theorem logged_was_written (here : done[index]? = some item) (listed : event ∈ tables.events)
    (same : event.eventId = item.mutation.eventId) : item.mutation ∈ written := by
  obtain ⟨position, other, there, known, recorded, _⟩ := holds.placed event listed
  have ids := (recorded_event_id recorded).symm.trans same
  obtain ⟨_, equal⟩ := position_unique holds there here ids
  exact equal ▸ known

end

theorem recorded_room (recorded : Recorded mutation event) : event.roomId = mutation.roomId := by
  obtain ⟨encoded, _, encodes, logs⟩ := recorded
  exact logs.room.trans (encoded_ids encodes).2

theorem next_place {sequence : Nat} (holds : Holds roomId done written tables)
    (next : tables.nextSequence roomId = .ok sequence) : sequence = done.length + 1 := by
  have position (index : Nat) (item : StreamItem) (here : done[index]? = some item) : index < done.length :=
    (List.getElem?_eq_some_iff.mp here).1
  have eventsBelow : Tables.maximum (tables.eventSequences roomId) ≤ done.length := by
    apply maximum_le
    intro value member
    simp only [Tables.eventSequences, List.mem_map, List.mem_filter] at member
    obtain ⟨event, ⟨listed, _⟩, same⟩ := member
    obtain ⟨index, item, here, _, _, level⟩ := holds.placed event listed
    have within := position index item here
    omega
  have reservedBelow : Tables.maximum (tables.reservedSequences roomId) ≤ done.length := by
    apply maximum_le
    intro value member
    simp only [Tables.reservedSequences, List.mem_filterMap, List.mem_filter] at member
    obtain ⟨row, ⟨listed, _⟩, reserved⟩ := member
    obtain ⟨index, item, here, _, keeps⟩ := holds.kept row listed
    have within := position index item here
    rw [keeps.place, Option.some.injEq] at reserved
    omega
  obtain ⟨eventsAbove, reservedAbove⟩ := next_sequence_above next
  have above : done.length < sequence := by
    cases length : done.length with
    | zero =>
      simp only [Tables.nextSequence] at next
      split at next
      · cases next
        omega
      · cases next
    | succ last =>
      obtain ⟨item, here⟩ : ∃ item, done[last]? = some item :=
        ⟨done[last], List.getElem?_eq_getElem (by omega)⟩
      have room := holds.rooms item (List.mem_of_getElem? here)
      by_cases known : item.mutation ∈ written
      · obtain ⟨event, listed, recorded, level⟩ := written_placed holds here known
        have below := eventsAbove event listed ((recorded_room recorded).trans room)
        omega
      · obtain ⟨row, listed, keeps⟩ := holds.waiting last item here known
        exact reservedAbove row listed (keeps.room.trans room) (last + 1) keeps.place
  simp only [Tables.nextSequence] at next
  split at next
  · cases next
    omega
  · cases next

theorem write_holds (holds : Holds roomId done written tables) (here : done[index]? = some item) (fresh : item.mutation ∉ written)
    {encoded : EncodedMutation} (encodes : EncodedMutation.fromMutation item.mutation = .ok encoded) (kept : Consistent next)
    (wrote : Tables.Wrote tables next encoded (index + 1)) :
    Holds roomId done (written ++ [item.mutation]) (next.forgetUndecryptable roomId item.mutation.eventId) := by
  have ids := encoded_ids encodes
  have room := holds.rooms item (List.mem_of_getElem? here)
  rcases wrote.log with ⟨⟨old, listed, same⟩, _⟩ | ⟨event, appended⟩
  · exact (fresh (logged_was_written holds here listed (same.trans ids.1))).elim
  · have recorded : Recorded item.mutation event := ⟨encoded, index + 1, encodes, appended.logs⟩
    have unwritten : item.mutation ∉ firstWrites written := fun known => fresh ((mem_first_writes _).mp known)
    exact {
      consistent := consistent_of_same next _ rfl rfl kept
      rooms := holds.rooms
      distinct := holds.distinct
      log := by
        rw [first_writes_fresh unwritten]
        exact appended.events ▸ List.rel_append holds.log (.cons recorded .nil)
      sources := by
        intro mutation listed
        rw [List.mem_append, List.mem_singleton] at listed
        rcases listed with earlier | same
        · exact holds.sources mutation earlier
        · exact ⟨item, List.mem_of_getElem? here, same.symm⟩
      plain := fun other listed session => List.mem_append_left _ (holds.plain other listed session)
      placed := by
        intro other listed
        rw [Tables.forgetUndecryptable, appended.events, List.mem_append, List.mem_singleton] at listed
        rcases listed with earlier | same
        · obtain ⟨position, source, there, known, recorded', level⟩ := holds.placed other earlier
          exact ⟨position, source, there, List.mem_append_left _ known, recorded', level⟩
        · subst same
          exact ⟨index, item, here, by simp, recorded, appended.logs.sequence⟩
      kept := by
        intro row listed
        rw [Tables.forgetUndecryptable, wrote.issues, List.mem_filter] at listed
        obtain ⟨position, source, there, unknown, keeps⟩ := holds.kept row listed.1
        refine ⟨position, source, there, ?_, keeps⟩
        rw [List.mem_append, List.mem_singleton]
        rintro (known | same)
        · exact unknown known
        · have removed : Tables.undecryptable roomId item.mutation.eventId row = true := by
            simp [Tables.undecryptable, keeps.room, keeps.event, keeps.reason, same, room]
          simp [removed] at listed
      waiting := by
        intro position source there unknown
        rw [List.mem_append, List.mem_singleton, not_or] at unknown
        obtain ⟨row, listed, keeps⟩ := holds.waiting position source there unknown.1
        refine ⟨row, ?_, keeps⟩
        have stays : Tables.undecryptable roomId item.mutation.eventId row = false := by
          simp only [Tables.undecryptable, decide_eq_false_iff_not, keeps.event, Option.some.injEq]
          rintro ⟨_, same, _⟩
          exact unknown.2 (congrArg StreamItem.mutation (position_unique holds there here same).2)
        rw [Tables.forgetUndecryptable, wrote.issues, List.mem_filter]
        exact ⟨listed, by simp [stays]⟩ }

theorem min_of_constant (values : List Nat) (value : Nat) (some : values ≠ []) (each : ∀ other ∈ values, other = value) :
    values.min? = .some value := by
  obtain ⟨first, rest, split⟩ := List.exists_cons_of_ne_nil some
  apply List.min?_eq_some_iff.mpr
  constructor
  · have same := each first (by simp [split])
    simp [split, same]
  · intro other member
    exact Nat.le_of_eq (each other member).symm

section

variable (holds : Holds roomId done written tables)
include holds

theorem reserved_place (here : done[index]? = some item) (fresh : item.mutation ∉ written) :
    tables.reservedSequence roomId item.mutation.eventId = some (index + 1) := by
  have room := holds.rooms item (List.mem_of_getElem? here)
  obtain ⟨row, listed, keeps⟩ := holds.waiting index item here fresh
  apply min_of_constant
  · have member : index + 1 ∈
        (tables.issues.filter (Tables.undecryptable roomId item.mutation.eventId)).filterMap IssueRow.reservedSequence := by
      rw [List.mem_filterMap]
      refine ⟨row, List.mem_filter.mpr ⟨listed, ?_⟩, keeps.place⟩
      simp [Tables.undecryptable, keeps.room, keeps.event, keeps.reason, room]
    exact List.ne_nil_of_mem member
  · intro value member
    simp only [List.mem_filterMap, List.mem_filter, Tables.undecryptable, decide_eq_true_eq] at member
    obtain ⟨other, ⟨listed', _, named, _⟩, reserved⟩ := member
    obtain ⟨position, source, there, _, keeps'⟩ := holds.kept other listed'
    have same : source.mutation.eventId = item.mutation.eventId := by
      rw [keeps'.event, Option.some.injEq] at named
      exact named
    have level := (position_unique holds there here same).1
    rw [keeps'.place, Option.some.injEq] at reserved
    omega

theorem reserved_none (here : done[index]? = some item) (known : item.mutation ∈ written) :
    tables.reservedSequence roomId item.mutation.eventId = none := by
  rw [Tables.reservedSequence, List.min?_eq_none_iff, List.filterMap_eq_nil_iff]
  intro row listed
  rw [List.mem_filter] at listed
  obtain ⟨position, source, there, unknown, keeps⟩ := holds.kept row listed.1
  have named := listed.2
  simp only [Tables.undecryptable, decide_eq_true_eq, keeps.event, Option.some.injEq] at named
  have same := (position_unique holds there here named.2.1).2
  exact (unknown (same ▸ known)).elim

theorem again_holds (known : mutation ∈ written) : Holds roomId done (written ++ [mutation]) tables := by
  have same (other : MessageProjectionMutation) : other ∈ written ++ [mutation] ↔ other ∈ written := by
    rw [List.mem_append, List.mem_singleton]
    exact ⟨fun either => either.elim id fun equal => equal ▸ known, .inl⟩
  exact {
    consistent := holds.consistent
    rooms := holds.rooms
    distinct := holds.distinct
    log := by
      rw [first_writes_again written mutation ((mem_first_writes _).mpr known)]
      exact holds.log
    sources := by simpa only [same] using holds.sources
    plain := fun item listed session => (same _).mpr (holds.plain item listed session)
    placed := by simpa only [same] using holds.placed
    kept := by simpa only [same] using holds.kept
    waiting := by simpa only [same] using holds.waiting }

theorem recover_holds (listed : item ∈ done) (run : Tables.recoverMutation roomId tables item.mutation = .ok next) :
    Holds roomId done (written ++ [item.mutation]) next := by
  obtain ⟨index, here⟩ := List.getElem?_of_mem listed
  obtain ⟨_, _, outcome⟩ := Tables.recover_mutation_ok holds.consistent run
  by_cases known : item.mutation ∈ written
  · rcases outcome with ⟨_, same⟩ | ⟨_, _, _, reserved, _⟩
    · exact same ▸ again_holds holds known
    · rw [reserved_none holds here known] at reserved
      cases reserved
  · rcases outcome with ⟨reserved, _⟩ | ⟨sequence, encoded, middle, reserved, encodes, kept, wrote, same⟩
    · rw [reserved_place holds here known] at reserved
      cases reserved
    · rw [reserved_place holds here known, Option.some.injEq] at reserved
      subst reserved
      exact same ▸ write_holds holds here known encodes kept wrote

end

theorem recoveries_hold (isolated : ∀ mutation ∈ recovered, ∃ item ∈ done, item.mutation = mutation)
    (holds : Holds roomId done written tables) (run : recovered.foldlM (Tables.recoverMutation roomId) tables = .ok next) :
    Holds roomId done (written ++ recovered) next := by
  induction recovered generalizing written tables with
  | nil =>
    rw [fold_ok_nil] at run
    rw [List.append_nil]
    exact run ▸ holds
  | cons mutation rest ih =>
    obtain ⟨middle, stepped, later⟩ := (fold_ok_cons _ _ _ _ _).mp run
    obtain ⟨item, listed, same⟩ := isolated mutation List.mem_cons_self
    subst same
    have reached := recover_holds holds listed stepped
    have shifted : written ++ item.mutation :: rest = (written ++ [item.mutation]) ++ rest := by simp
    rw [shifted]
    exact ih (fun other member => isolated other (List.mem_cons_of_mem _ member)) reached later

structure NextItem (roomId : MatrixRoomId) (done : List StreamItem) (item : StreamItem) : Prop where
  room : item.mutation.roomId = roomId
  fresh : ∀ other ∈ done, other.mutation.eventId ≠ item.mutation.eventId

theorem fresh_distinct (holds : Holds roomId done written tables) (fits : NextItem roomId done item) :
    (∀ other ∈ done ++ [item], other.mutation.roomId = roomId) ∧
      ((done ++ [item]).map fun other => other.mutation.eventId).Nodup := by
  constructor
  · intro other listed
    rcases List.mem_append.mp listed with earlier | same
    · exact holds.rooms other earlier
    · exact List.mem_singleton.mp same ▸ fits.room
  · rw [List.map_append, List.nodup_append]
    refine ⟨holds.distinct, by simp, ?_⟩
    intro id listed last same
    obtain ⟨other, member, named⟩ := List.mem_map.mp listed
    have only : last = item.mutation.eventId := by simpa using same
    exact only ▸ named ▸ fits.fresh other member

theorem fresh_in_log (holds : Holds roomId done written tables) (fits : NextItem roomId done item) :
    (∀ event ∈ tables.events, event.eventId ≠ item.mutation.eventId) ∧ item.mutation ∉ written ∧
      ∀ row ∈ tables.issues, row.eventId ≠ some item.mutation.eventId := by
  have absent : ∀ event ∈ tables.events, event.eventId ≠ item.mutation.eventId := by
    intro event listed same
    obtain ⟨_, other, there, _, recorded, _⟩ := holds.placed event listed
    exact fits.fresh other (List.mem_of_getElem? there) ((recorded_event_id recorded).symm.trans same)
  have unwritten : item.mutation ∉ written := by
    intro known
    obtain ⟨event, listed, recorded⟩ :=
      (recorded_stored _ tables.events holds.log).1 item.mutation ((mem_first_writes _).mpr known)
    exact absent event listed (recorded_event_id recorded)
  have unkept : ∀ row ∈ tables.issues, row.eventId ≠ some item.mutation.eventId := by
    intro row listed same
    obtain ⟨_, other, there, _, keeps⟩ := holds.kept row listed
    rw [keeps.event, Option.some.injEq] at same
    exact fits.fresh other (List.mem_of_getElem? there) same
  exact ⟨absent, unwritten, unkept⟩

theorem snoc_position (here : (done ++ [item])[index]? = some other) :
    done[index]? = some other ∨ (index = done.length ∧ other = item) := by
  by_cases earlier : index < done.length
  · rw [List.getElem?_append_left earlier] at here
    exact .inl here
  · rw [List.getElem?_append_right (Nat.le_of_not_lt earlier)] at here
    obtain ⟨within, same⟩ := List.getElem?_eq_some_iff.mp here
    have last : index = done.length := by
      rw [List.length_singleton] at within
      omega
    exact .inr ⟨last, by simpa using same.symm⟩

theorem earlier_position (here : done[index]? = some other) : (done ++ [item])[index]? = some other := by
  rw [List.getElem?_append_left (List.getElem?_eq_some_iff.mp here).1, here]

theorem deliver_holds (holds : Holds roomId done written tables)
    (fits : NextItem roomId done (.plain mutation)) (run : tables.applyMutation mutation = .ok next) :
    Holds roomId (done ++ [.plain mutation]) (written ++ [mutation]) next := by
  obtain ⟨absent, unwritten, _⟩ := fresh_in_log holds fits
  obtain ⟨rooms, distinct⟩ := fresh_distinct holds fits
  obtain ⟨kept, encoded, sequence, encodes, next', wrote⟩ :=
    Tables.apply_mutation_ok holds.consistent run
  have ids := encoded_ids encodes
  have room : encoded.roomId = roomId := ids.2.trans fits.room
  have level := next_place holds (room ▸ next')
  rcases wrote.log with ⟨⟨old, listed, same⟩, _⟩ | ⟨event, appended⟩
  · exact (absent old listed (same.trans ids.1)).elim
  · have recorded : Recorded mutation event := ⟨encoded, sequence, encodes, appended.logs⟩
    have unlogged : mutation ∉ firstWrites written := fun known => unwritten ((mem_first_writes _).mp known)
    have here : (done ++ [StreamItem.plain mutation])[done.length]? = some (.plain mutation) := by simp
    exact {
      consistent := kept
      rooms
      distinct
      log := by
        rw [first_writes_fresh unlogged]
        exact appended.events ▸ List.rel_append holds.log (.cons recorded .nil)
      sources := by
        intro other listed
        rw [List.mem_append, List.mem_singleton] at listed
        rcases listed with earlier | same
        · obtain ⟨item, member, sourced⟩ := holds.sources other earlier
          exact ⟨item, List.mem_append_left _ member, sourced⟩
        · exact ⟨.plain mutation, by simp, same.symm⟩
      plain := by
        intro other listed session
        rw [List.mem_append, List.mem_singleton] at listed ⊢
        rcases listed with earlier | same
        · exact .inl (holds.plain other earlier session)
        · exact .inr (congrArg StreamItem.mutation same)
      placed := by
        intro other listed
        rw [appended.events, List.mem_append, List.mem_singleton] at listed
        rcases listed with earlier | same
        · obtain ⟨index, source, there, known, recorded', place⟩ := holds.placed other earlier
          exact ⟨index, source, earlier_position there, List.mem_append_left _ known, recorded', place⟩
        · subst same
          exact ⟨done.length, .plain mutation, here, by simp [StreamItem.plain], recorded, appended.logs.sequence.trans level⟩
      kept := by
        intro row listed
        obtain ⟨index, source, there, unknown, keeps⟩ := holds.kept row (wrote.issues ▸ listed)
        refine ⟨index, source, earlier_position there, ?_, keeps⟩
        rw [List.mem_append, List.mem_singleton]
        rintro (known | same)
        · exact unknown known
        · exact fits.fresh source (List.mem_of_getElem? there) (congrArg MessageProjectionMutation.eventId same)
      waiting := by
        intro index source there unknown
        rw [List.mem_append, List.mem_singleton, not_or] at unknown
        rcases snoc_position there with earlier | ⟨_, same⟩
        · obtain ⟨row, listed, keeps⟩ := holds.waiting index source earlier unknown.1
          exact ⟨row, wrote.issues ▸ listed, keeps⟩
        · exact (unknown.2 (congrArg StreamItem.mutation same)).elim }

theorem record_new_issue (unkept : ∀ old ∈ tables.issues, old.eventId ≠ some eventId) (named : row.eventId = some eventId) :
    tables.recordIssue row = { tables with issues := tables.issues ++ [row] } := by
  rw [Tables.recordIssue, if_neg]
  simp only [Bool.not_eq_true, List.any_eq_false, Tables.sameIssue, decide_eq_true_eq]
  rintro old listed ⟨_, _, same, _⟩
  exact unkept old listed (same.symm.trans named)

variable {session : UndecryptableSession}

theorem isolate_ok (absent : ∀ event ∈ tables.events, event.eventId ≠ mutation.eventId)
    (unkept : ∀ row ∈ tables.issues, row.eventId ≠ some mutation.eventId)
    (run : tables.persistIssue syncToken (StreamItem.isolation mutation session mutationsBefore) = .ok next) :
    ∃ sequence row, tables.nextSequence mutation.roomId = .ok sequence ∧ KeepsPlace mutation sequence row ∧
      next = { tables with issues := tables.issues ++ [row] } := by
  obtain ⟨reserved, takes, rest⟩ := unbind run
  have unknown : (tables.events.any fun event => event.eventId = mutation.eventId) = false := by
    simpa using absent
  have unplaced : (tables.issues.any fun row =>
      row.roomId = mutation.roomId ∧ row.eventId = some mutation.eventId ∧ row.reservedSequence.isSome) = false := by
    simp only [List.any_eq_false, decide_eq_true_eq]
    rintro row listed ⟨_, named, _⟩
    exact unkept row listed named
  have unreserved : tables.reserveSequence mutation.roomId mutation.eventId =
      (tables.nextSequence mutation.roomId).map some := by
    simp only [Tables.reserveSequence, unknown, unplaced, Bool.or_false, Bool.false_eq_true, if_false]
  have place : (tables.nextSequence mutation.roomId).map some = .ok reserved := unreserved.symm.trans takes
  cases sequence : tables.nextSequence mutation.roomId with
  | error failure =>
    rw [sequence] at place
    cases place
  | ok value =>
    rw [sequence] at place
    cases place
    cases rest
    exact ⟨value, _, rfl, ⟨rfl, rfl, rfl, rfl⟩, record_new_issue unkept rfl⟩

theorem isolate_holds (holds : Holds roomId done written tables) (fits : NextItem roomId done ⟨mutation, some session⟩)
    (run : tables.persistIssue syncToken (StreamItem.isolation mutation session 0) = .ok next) :
    Holds roomId (done ++ [⟨mutation, some session⟩]) written next := by
  obtain ⟨absent, unwritten, unkept⟩ := fresh_in_log holds fits
  obtain ⟨rooms, distinct⟩ := fresh_distinct holds fits
  obtain ⟨sequence, row, place, keeps, same⟩ := isolate_ok absent unkept run
  have room : mutation.roomId = roomId := fits.room
  have level := next_place holds (room ▸ place)
  subst same level
  exact {
    consistent := consistent_of_same tables _ rfl rfl holds.consistent
    rooms
    distinct
    log := holds.log
    sources := by
      intro other listed
      obtain ⟨item, member, sourced⟩ := holds.sources other listed
      exact ⟨item, List.mem_append_left _ member, sourced⟩
    plain := by
      intro other listed session'
      rw [List.mem_append, List.mem_singleton] at listed
      rcases listed with earlier | same
      · exact holds.plain other earlier session'
      · rw [same] at session'
        cases session'
    placed := by
      intro other listed
      obtain ⟨index, source, there, known, recorded, place'⟩ := holds.placed other listed
      exact ⟨index, source, earlier_position there, known, recorded, place'⟩
    kept := by
      intro other listed
      rcases List.mem_append.mp listed with earlier | same
      · obtain ⟨index, source, there, unknown, keeps'⟩ := holds.kept other earlier
        exact ⟨index, source, earlier_position there, unknown, keeps'⟩
      · rw [List.mem_singleton.mp same]
        exact ⟨done.length, ⟨mutation, some session⟩, by simp, unwritten, keeps⟩
    waiting := by
      intro index source there unknown
      rcases snoc_position there with earlier | ⟨last, same⟩
      · obtain ⟨other, listed, keeps'⟩ := holds.waiting index source earlier unknown
        exact ⟨other, List.mem_append_left _ listed, keeps'⟩
      · subst last same
        exact ⟨row, by simp, keeps⟩ }

theorem items_hold (items : List StreamItem) (rooms : ∀ item ∈ done ++ items, item.mutation.roomId = roomId)
    (distinct : ((done ++ items).map fun item => item.mutation.eventId).Nodup) (holds : Holds roomId done written tables)
    (run : items.foldlM (takeItem syncToken) tables = .ok next) :
    Holds roomId (done ++ items) (written ++ delivered items) next := by
  induction items generalizing done written tables with
  | nil =>
    rw [fold_ok_nil] at run
    rw [delivered, List.append_nil, List.append_nil]
    exact run ▸ holds
  | cons item rest ih =>
    obtain ⟨middle, stepped, later⟩ := (fold_ok_cons _ _ _ _ _).mp run
    have fits : NextItem roomId done item := by
      refine ⟨rooms item (by simp), ?_⟩
      rw [List.map_append, List.map_cons, List.nodup_append] at distinct
      intro other listed
      exact distinct.2.2 _ (List.mem_map_of_mem listed) _ List.mem_cons_self
    have shifted : done ++ item :: rest = (done ++ [item]) ++ rest := by simp
    rw [shifted] at rooms distinct ⊢
    obtain ⟨mutation, session⟩ := item
    cases session with
    | none =>
      have reached := deliver_holds holds fits stepped
      have finished := ih rooms distinct reached later
      exact List.append_assoc written [mutation] (delivered rest) ▸ finished
    | some held =>
      have reached := isolate_holds holds fits stepped
      exact ih rooms distinct reached later

end

theorem holds_beside (beside : Tables.Beside tables next) (holds : Holds roomId done written tables) :
    Holds roomId done written next where
  consistent := Tables.beside_consistent beside holds.consistent
  rooms := holds.rooms
  distinct := holds.distinct
  log := beside.events ▸ holds.log
  sources := holds.sources
  plain := holds.plain
  placed := beside.events ▸ holds.placed
  kept := beside.issues ▸ holds.kept
  waiting := beside.issues ▸ holds.waiting

theorem delivers_holds (rooms : ∀ item ∈ done, item.mutation.roomId = roomId)
    (distinct : (done.map fun item => item.mutation.eventId).Nodup) (ran : Delivers roomId done written tables) :
    Holds roomId done written tables := by
  induction ran with
  | start => exact nothing_holds roomId
  | sync done items written tables next nextBatch gaps _ applied ih =>
    obtain ⟨gapped, middle, before, timeline, after⟩ := Tables.apply_batch_ok applied
    rw [Tables.applyTimeline] at timeline
    have each := (apply_timeline_items items 0 gapped).symm.trans timeline
    have distinct' : (done.map fun item => item.mutation.eventId).Nodup := by
      rw [List.map_append] at distinct
      exact (List.nodup_append.mp distinct).1
    have started := ih (fun item listed => rooms item (List.mem_append_left _ listed)) distinct'
    have reached := items_hold items rooms distinct (holds_beside before started) each
    exact holds_beside after reached
  | recover done written recovered tables next _ isolated applied ih =>
    obtain ⟨middle, writes, rest⟩ := unbind applied
    cases rest
    have sources : ∀ mutation ∈ recovered, ∃ item ∈ done, item.mutation = mutation := by
      intro mutation listed
      obtain ⟨item, member, same, _⟩ := isolated mutation listed
      exact ⟨item, member, same⟩
    exact recoveries_hold sources (ih rooms distinct) writes

end AgentRoom
