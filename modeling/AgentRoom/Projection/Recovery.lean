import AgentRoom.Projection.Places

namespace AgentRoom

open Library

theorem recorded_position (holds : Holds roomId done written tables) (index : Nat) (here : done[index]? = some item)
    (listed : event ∈ tables.events) (recorded : Recorded item.mutation event) : event.sequence = index + 1 := by
  obtain ⟨position, other, there, _, recorded', level⟩ := holds.placed event listed
  have same := (recorded_event_id recorded).symm.trans (recorded_event_id recorded')
  have equal := (position_unique holds here there same).1
  omega

theorem complete_placed (holds : Holds roomId stream written tables) (complete : ∀ item ∈ stream, item.mutation ∈ written) :
    Placed (stream.map StreamItem.mutation) tables.events := by
  have stored : ∀ mutation ∈ stream.map StreamItem.mutation, ∃ event ∈ tables.events, Recorded mutation event := by
    intro mutation member
    obtain ⟨item, listed, same⟩ := List.mem_map.mp member
    exact same ▸ (recorded_stored _ tables.events holds.log).1 item.mutation
      ((mem_first_writes _).mpr (complete item listed))
  have listed : ∀ event ∈ tables.events, ∃ mutation ∈ stream.map StreamItem.mutation, Recorded mutation event := by
    intro event member
    obtain ⟨_, item, here, _, recorded, _⟩ := holds.placed event member
    exact ⟨item.mutation, List.mem_map_of_mem (List.mem_of_getElem? here), recorded⟩
  have order : (stream.map StreamItem.mutation).Pairwise fun first second => ∀ one ∈ tables.events,
      ∀ other ∈ tables.events, Recorded first one → Recorded second other → one.roomId = other.roomId →
        one.sequence < other.sequence := by
    rw [List.pairwise_map, List.pairwise_iff_getElem]
    intro first second firstWithin secondWithin earlier one listed other listed' recorded recorded' _
    have before := recorded_position holds first
      (List.getElem?_eq_getElem firstWithin) listed recorded
    have after := recorded_position holds second
      (List.getElem?_eq_getElem secondWithin) listed' recorded'
    omega
  exact ⟨stored, listed, order⟩

def Tables.outcome (tables : Tables) (messageId : MessageId) : Option (MatrixEventId × Nat × VisibleContent) :=
  (tables.current.find? (·.messageId = messageId)).map fun row => (row.baseEventId, row.firstSequence, row.visibleContent)

theorem complete_outcome (holds : Holds roomId stream written tables) (complete : ∀ item ∈ stream, item.mutation ∈ written)
    (messageId : MessageId) : (firstPreview messageId written = none ∧ tables.outcome messageId = none) ∨
      ∃ base index, firstPreview messageId written = some base ∧ (stream.map StreamItem.mutation)[index]? = some (.preview base) ∧
        tables.outcome messageId = some (base.eventId, index + 1, reading (stream.map StreamItem.mutation) base) := by
  have rows := current_row_of tables holds.consistent holds.log messageId
  rw [first_writes_preview] at rows
  rcases rows with ⟨unnamed, absent⟩ | ⟨base, baseEvent, row, first, based, listed, found, shown⟩
  · exact .inl ⟨unnamed, by simp [Tables.outcome, absent]⟩
  · obtain ⟨known, _⟩ := first_preview_mem messageId first
    have placed := complete_placed holds complete
    obtain ⟨source, member, sourced⟩ := holds.sources _ known
    obtain ⟨index, here⟩ := List.getElem?_of_mem member
    have baseId := (recorded_preview based).1
    have level := recorded_position holds index here listed (sourced ▸ based)
    have content := row_reads_timeline _ tables holds.consistent placed row based shown
    have opened : (row.baseEventId, row.firstSequence, row.visibleContent) =
        (base.eventId, index + 1, reading (stream.map StreamItem.mutation) base) := by
      rw [shown.baseEvent, shown.first, baseId, level, content]
    exact .inr ⟨base, index, first, by rw [List.getElem?_map, here, Option.map_some, sourced],
      by rw [Tables.outcome, found, Option.map_some, opened]⟩

theorem delivers_plain (ran : Delivers roomId done written tables) (plain : ∀ item ∈ done, item.session = none) :
    written = done.map StreamItem.mutation := by
  have whole (items : List StreamItem) (open' : ∀ item ∈ items, item.session = none) :
      delivered items = items.map StreamItem.mutation := by
    induction items with
    | nil => rfl
    | cons item rest ih =>
      have session := open' item List.mem_cons_self
      rw [delivered, session, List.map_cons, ih fun other later => open' other (List.mem_cons_of_mem _ later)]
  induction ran with
  | start => rfl
  | sync done items written tables next nextBatch gaps _ _ ih =>
    rw [List.map_append, ih fun item listed => plain item (List.mem_append_left _ listed),
      whole items fun item listed => plain item (List.mem_append_right _ listed)]
  | recover done written recovered tables next _ isolated _ ih =>
    cases recovered with
    | nil => rw [List.append_nil, ih plain]
    | cons mutation rest =>
      obtain ⟨item, listed, _, session⟩ := isolated mutation List.mem_cons_self
      exact (session (plain item listed)).elim

theorem first_preview_none_of_subset {within : ∀ mutation ∈ timeline, mutation ∈ others}
    (unnamed : firstPreview messageId others = none) : firstPreview messageId timeline = none := by
  apply List.findSome?_eq_none_iff.mpr
  intro mutation member
  exact List.findSome?_eq_none_iff.mp unnamed mutation (within mutation member)

theorem recovered_stream_matches_plain_stream (roomId : MatrixRoomId) (stream : List StreamItem)
    (written inOrder : List MessageProjectionMutation) (recovered plain : Tables)
    (rooms : ∀ item ∈ stream, item.mutation.roomId = roomId) (distinct : (stream.map fun item => item.mutation.eventId).Nodup)
    (ran : Delivers roomId stream written recovered) (complete : ∀ item ∈ stream, item.mutation ∈ written)
    (applied : Delivers roomId (stream.map fun item => .plain item.mutation) inOrder plain) (messageId : MessageId) :
    ((recovered.outcome messageId).isSome = (plain.outcome messageId).isSome) ∧
      (firstPreview messageId written = firstPreview messageId (stream.map StreamItem.mutation) →
        recovered.outcome messageId = plain.outcome messageId) ∧
      ∀ base, firstPreview messageId written = some base →
        ∃ index, (stream.map StreamItem.mutation)[index]? = some (.preview base) ∧ recovered.outcome messageId =
            some (base.eventId, index + 1, reading (stream.map StreamItem.mutation) base) := by
  have mutations : (stream.map fun item => StreamItem.plain item.mutation).map StreamItem.mutation =
      stream.map StreamItem.mutation := by
    rw [List.map_map]
    rfl
  have ordered : inOrder = stream.map StreamItem.mutation := by
    rw [delivers_plain applied (by simp [StreamItem.plain]), mutations]
  have holds := delivers_holds rooms distinct ran
  have holds' := delivers_holds (by simpa [StreamItem.plain] using rooms)
    (by simpa [List.map_map, Function.comp_def, StreamItem.plain] using distinct) applied
  have outcome := complete_outcome holds complete messageId
  have complete' : ∀ item ∈ stream.map fun item => StreamItem.plain item.mutation, item.mutation ∈ inOrder := by
    intro item listed
    rw [ordered, ← mutations]
    exact List.mem_map_of_mem listed
  have outcome' := complete_outcome holds' complete' messageId
  rw [mutations, ordered] at outcome'
  rcases outcome with ⟨unnamed, absent⟩ | ⟨base, index, first, here, shown⟩
  · have silent : firstPreview messageId (stream.map StreamItem.mutation) = none := by
      apply first_preview_none_of_subset unnamed
      intro mutation member
      obtain ⟨item, listed, same⟩ := List.mem_map.mp member
      exact same ▸ complete item listed
    rcases outcome' with ⟨_, absent'⟩ | ⟨base, _, first', _, _⟩
    · simp [unnamed, absent, absent']
    · rw [silent] at first'
      cases first'
  · rcases outcome' with ⟨unnamed', _⟩ | ⟨base', index', first', here', shown'⟩
    · obtain ⟨known, named⟩ := first_preview_mem messageId first
      have silent := List.findSome?_eq_none_iff.mp unnamed' _ (List.mem_of_getElem? here)
      simp [AgentRoom.named, named] at silent
    · have mutationsDistinct : (stream.map StreamItem.mutation).Nodup := by
        apply List.Nodup.of_map MessageProjectionMutation.eventId
        simpa [List.map_map, Function.comp_def] using distinct
      have same (agrees : firstPreview messageId written = firstPreview messageId (stream.map StreamItem.mutation)) :
          recovered.outcome messageId = plain.outcome messageId := by
        rw [first, first', Option.some.injEq] at agrees
        subst agrees
        have level : index = index' :=
          (List.getElem?_inj (List.getElem?_eq_some_iff.mp here).1 mutationsDistinct).mp (here.trans here'.symm)
        rw [shown, shown', level]
      have wins (other : ProjectedMessagePreview) (opened : firstPreview messageId written = some other) :
          ∃ index, (stream.map StreamItem.mutation)[index]? = some (.preview other) ∧
            recovered.outcome messageId = some (other.eventId, index + 1, reading (stream.map StreamItem.mutation) other) := by
        rw [first, Option.some.injEq] at opened
        exact ⟨index, opened ▸ here, opened ▸ shown⟩
      exact ⟨by rw [shown, shown']; rfl, same, wins⟩

def sessionOf (device : String) : UndecryptableSession where
  sender := "@alice:x"
  senderDevice := some device
  sessionId := "megolm"

def contendedStream : List StreamItem :=
  [⟨previewAt "$1" 7 "alice" 1, some (sessionOf "A")⟩, .plain (previewAt "$2" 7 "bob" 2)]

def editedStream : List StreamItem :=
  [.plain (previewAt "$1" 7 "alice" 1), ⟨editAt "$2" 7 "alice" 2, some (sessionOf "A")⟩, .plain (editAt "$3" 7 "alice" 3)]

def wholeThenRecovered (stream : List StreamItem) (recovered : List MessageProjectionMutation) : StoreResult Tables :=
  deliverAll Tables.empty [.apply (syncBatch ⟨"s1"⟩ [] stream), .applyRecovery (recoveryBatch ⟨"!room:x"⟩ recovered)]

def plainly (stream : List StreamItem) : StoreResult Tables :=
  deliverAll Tables.empty [.apply (syncBatch ⟨"s1"⟩ [] (stream.map fun item => .plain item.mutation))]

theorem plainly_delivers (run : plainly stream = .ok tables) : Delivers ⟨"!room:x"⟩ (stream.map fun item => .plain item.mutation)
      (delivered (stream.map fun item => .plain item.mutation)) tables := by
  obtain ⟨synced, applied, rest⟩ := (fold_ok_cons _ _ _ _ _).mp run
  rw [fold_ok_nil] at rest
  subst rest
  exact .sync [] _ [] Tables.empty synced ⟨"s1"⟩ [] .start applied

theorem recovered_delivers (isolated : ∀ mutation ∈ recovered, ∃ item ∈ stream, item.mutation = mutation ∧ item.session ≠ none)
    (run : wholeThenRecovered stream recovered = .ok tables) :
    Delivers ⟨"!room:x"⟩ stream (delivered stream ++ recovered) tables := by
  obtain ⟨synced, applied, rest⟩ := (fold_ok_cons _ _ _ _ _).mp run
  obtain ⟨written, applied', rest'⟩ := (fold_ok_cons _ _ _ _ _).mp rest
  rw [fold_ok_nil] at rest'
  subst rest'
  exact .recover stream (delivered stream) recovered synced written (.sync [] stream [] _ synced ⟨"s1"⟩ [] .start applied)
    isolated applied'

theorem recovered_edit_stays_behind :
    ∃ recovered plain, wholeThenRecovered editedStream [editAt "$2" 7 "alice" 2] = .ok recovered ∧
      plainly editedStream = .ok plain ∧ recovered.outcome ⟨7⟩ = plain.outcome ⟨7⟩ := by
  obtain ⟨recovered, ran⟩ : ∃ tables, wholeThenRecovered editedStream [editAt "$2" 7 "alice" 2] = .ok tables := ⟨_, rfl⟩
  obtain ⟨plain, applied⟩ : ∃ tables, plainly editedStream = .ok tables := ⟨_, rfl⟩
  have matched := recovered_stream_matches_plain_stream ⟨"!room:x"⟩ editedStream _ _ recovered plain (by decide)
    (by decide) (recovered_delivers (by decide) ran) (by decide)
    (plainly_delivers applied) ⟨7⟩
  exact ⟨recovered, plain, ran, applied, matched.2.1 (by decide)⟩

theorem late_key_loses_its_message :
    ∃ recovered plain, Delivers ⟨"!room:x"⟩ contendedStream [previewAt "$2" 7 "bob" 2, previewAt "$1" 7 "alice" 1] recovered ∧
      (∀ item ∈ contendedStream, item.mutation ∈ [previewAt "$2" 7 "bob" 2, previewAt "$1" 7 "alice" 1]) ∧
      Delivers ⟨"!room:x"⟩ (contendedStream.map fun item => .plain item.mutation)
        [previewAt "$1" 7 "alice" 1, previewAt "$2" 7 "bob" 2] plain ∧
      recovered.outcome ⟨7⟩ = some (⟨"$2"⟩, 2, .active ⟨"$2"⟩ (some "$2") (some ⟨⟨2⟩, "$2"⟩)) ∧
      plain.outcome ⟨7⟩ = some (⟨"$1"⟩, 1, .active ⟨"$1"⟩ (some "$1") (some ⟨⟨1⟩, "$1"⟩)) := by
  obtain ⟨recovered, ran, outcome⟩ :
      ∃ tables, wholeThenRecovered contendedStream [previewAt "$1" 7 "alice" 1] = .ok tables ∧
        tables.outcome ⟨7⟩ = some (⟨"$2"⟩, 2, .active ⟨"$2"⟩ (some "$2") (some ⟨⟨2⟩, "$2"⟩)) := ⟨_, rfl, by decide⟩
  obtain ⟨plain, applied, outcome'⟩ :
      ∃ tables, plainly contendedStream = .ok tables ∧
        tables.outcome ⟨7⟩ = some (⟨"$1"⟩, 1, .active ⟨"$1"⟩ (some "$1") (some ⟨⟨1⟩, "$1"⟩)) := ⟨_, rfl, by decide⟩
  exact ⟨recovered, plain, recovered_delivers (by decide) ran, by decide, plainly_delivers applied, outcome, outcome'⟩

end AgentRoom
