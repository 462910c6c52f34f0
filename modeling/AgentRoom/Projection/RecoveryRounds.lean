import AgentRoom.Projection.Filling
import AgentRoom.Projection.Replayed
import Mathlib.Data.List.Sort

namespace AgentRoom.MessageSync

open Library

def recoveryPageEvents : Nat := 100

def maxEventsPerRound : Nat := 1000

structure ReservedIsolatedEvent where
  eventId : MatrixEventId
  position : Nat

inductive Reread where
  | recovered
  | isolated (reason : MessageSyncIssueReason)
  | dismissed
deriving DecidableEq

abbrev RecoverySource := MatrixEventId → Except MatrixFailureKind Reread

def isolatedEvent (roomId : MatrixRoomId) (sessionIds : List String) (row : IssueRow) : Option ReservedIsolatedEvent :=
  if row.roomId = roomId ∧ row.reason = .undecryptable ∧ row.session.any (fun session => session.sessionId ∈ sessionIds) then
    row.eventId.bind fun eventId => row.reservedSequence.map fun position => ⟨eventId, position⟩
  else none

def isolatedEvents (issues : List IssueRow) (roomId : MatrixRoomId) (sessionIds : List String) : List ReservedIsolatedEvent :=
  (issues.filterMap (isolatedEvent roomId sessionIds)).mergeSort fun first second => first.position ≤ second.position

def undecryptableEvents (issues : List IssueRow) (roomId : MatrixRoomId) (sessionIds : List String) (after limit : Nat) :
    List ReservedIsolatedEvent :=
  ((isolatedEvents issues roomId sessionIds).filter (after < ·.position)).take limit

-- A recovered or dismissed event leaves its row, a reclassified one keeps it for
-- another reason, and one that is still undecryptable is not touched.
def rewritten (source : RecoverySource) (roomId : MatrixRoomId) (fetched : List MatrixEventId) (row : IssueRow) :
    Option IssueRow :=
  match row.eventId with
  | none => some row
  | some eventId =>
    if row.roomId = roomId ∧ row.reason = .undecryptable ∧ eventId ∈ fetched then
      match source eventId with
      | .error _ => some row
      | .ok .recovered => none
      | .ok .dismissed => none
      | .ok (.isolated reason) =>
        if reason = .undecryptable then some row else some { row with reason, reservedSequence := none, session := none }
    else some row

def writeRecovered (source : RecoverySource) (roomId : MatrixRoomId) (fetched : List MatrixEventId) (issues : List IssueRow) :
    List IssueRow := issues.filterMap (rewritten source roomId fetched)

def fetchPage (source : RecoverySource) : List ReservedIsolatedEvent → List ReservedIsolatedEvent × Bool
  | [] => ([], false)
  | event :: rest =>
    match source event.eventId with
    | .error failure =>
      if failure.isTransient then ([event], true)
      else (event :: (fetchPage source rest).1, (fetchPage source rest).2)
    | .ok _ => (event :: (fetchPage source rest).1, (fetchPage source rest).2)

structure RecoveryProgress where
  issues : List IssueRow
  budget : Nat
  fetched : List MatrixEventId

variable (source : RecoverySource) (roomId : MatrixRoomId) (sessionIds : List String)

theorem fetch_page_reads (page : List ReservedIsolatedEvent) (some : page ≠ []) : 0 < (fetchPage source page).1.length := by
  cases page with
  | nil => exact absurd rfl some
  | cons event rest =>
    unfold fetchPage
    split
    · split <;> exact Nat.succ_pos _
    · exact Nat.succ_pos _

-- The flag says whether the sessions are left to the next round.
def recoverRoom (after : Nat) (progress : RecoveryProgress) : Bool × RecoveryProgress :=
  let page := undecryptableEvents progress.issues roomId sessionIds after recoveryPageEvents
  match page.getLast? with
  | none => (false, progress)
  | some last =>
    let read := fetchPage source (page.take progress.budget)
    let next : RecoveryProgress := {
      issues := writeRecovered source roomId (read.1.map (·.eventId)) progress.issues
      budget := progress.budget - read.1.length
      fetched := progress.fetched ++ read.1.map (·.eventId) }
    if read.2 = true ∨ next.budget = 0 then (true, next)
    else if page.length < recoveryPageEvents then (false, next)
    else recoverRoom last.position next
termination_by progress.budget
decreasing_by
  rename_i go full
  have left : progress.budget - read.1.length ≠ 0 := fun none => go (.inr none)
  have reads : 0 < read.1.length := by
    refine fetch_page_reads source _ fun empty => ?_
    rcases List.take_eq_nil_iff.mp empty with spent | none
    · exact left (by rw [spent, Nat.zero_sub])
    · exact full (by rw [none]; decide)
  exact Nat.sub_lt (Nat.pos_of_ne_zero fun spent => left (by rw [spent, Nat.zero_sub])) reads

-- One round over the rooms of the offered sessions, as the map that groups them lists
-- them; with the sessions that are left to the next round.
def recoverIsolated (byRoom : List (MatrixRoomId × List String)) (issues : List IssueRow) :
    List (MatrixRoomId × String) × RecoveryProgress :=
  byRoom.foldl (fun (deferred, progress) (roomId, sessionIds) =>
    let (again, next) := if progress.budget = 0 then (true, progress) else recoverRoom source roomId sessionIds 0 progress
    (if again then deferred ++ sessionIds.map (roomId, ·) else deferred, next)) ([], ⟨issues, maxEventsPerRound, []⟩)

def rounds : Nat → List IssueRow → List MatrixEventId
  | 0, _ => []
  | count + 1, issues =>
    let round := (recoverIsolated source [(roomId, sessionIds)] issues).2
    round.fetched ++ rounds count round.issues

variable {source roomId sessionIds} {issues : List IssueRow} {after : Nat}

theorem round_progress : (recoverIsolated source [(roomId, sessionIds)] issues).2 =
    (recoverRoom source roomId sessionIds 0 ⟨issues, maxEventsPerRound, []⟩).2 := rfl

def Steady (source : RecoverySource) : Prop := ∀ eventId failure, source eventId = .error failure → failure.isTransient = false

theorem fetch_page_steady (steady : Steady source) (page : List ReservedIsolatedEvent) : fetchPage source page = (page, false) := by
  induction page with
  | nil => rfl
  | cons event rest ih =>
    unfold fetchPage
    cases answer : source event.eventId with
    | error failure => simp [steady event.eventId failure answer, ih]
    | ok reread => simp [ih]

-- The rows of a room are listed by the sequence that was reserved for them.
structure RisingRows (issues : List IssueRow) (roomId : MatrixRoomId) (sessionIds : List String) : Prop where
  positive : ∀ event ∈ issues.filterMap (isolatedEvent roomId sessionIds), 0 < event.position
  rising : (issues.filterMap (isolatedEvent roomId sessionIds)).Pairwise (·.position < ·.position)
  distinct : ((issues.filterMap (isolatedEvent roomId sessionIds)).map (·.eventId)).Nodup

def isolatedAfter (issues : List IssueRow) (roomId : MatrixRoomId) (sessionIds : List String) (after : Nat) :
    List ReservedIsolatedEvent :=
  (issues.filterMap (isolatedEvent roomId sessionIds)).filter (after < ·.position)

theorem sorted_isolated (rising : (issues.filterMap (isolatedEvent roomId sessionIds)).Pairwise (·.position < ·.position)) :
    isolatedEvents issues roomId sessionIds = issues.filterMap (isolatedEvent roomId sessionIds) :=
  List.mergeSort_of_pairwise (rising.imp fun less => decide_eq_true (Nat.le_of_lt less))

def stays (source : RecoverySource) (fetched : List MatrixEventId) (eventId : MatrixEventId) : Bool :=
  eventId ∉ fetched ∨ (source eventId).toOption.all (· = .isolated .undecryptable)

theorem isolated_event_row (isolated : isolatedEvent roomId sessionIds row = some event) :
    row.eventId = some event.eventId ∧ row.roomId = roomId ∧ row.reason = .undecryptable ∧ row.reservedSequence = some event.position := by
  unfold isolatedEvent at isolated
  split at isolated
  · rename_i mine
    obtain ⟨eventId, named, placed⟩ := Option.bind_eq_some_iff.mp isolated
    obtain ⟨position, reserved, rfl⟩ := Option.map_eq_some_iff.mp placed
    exact ⟨named, mine.1, mine.2.1, reserved⟩
  · cases isolated

theorem rewritten_isolated (fetched : List MatrixEventId) (row : IssueRow) :
    (rewritten source roomId fetched row).bind (isolatedEvent roomId sessionIds) =
      (isolatedEvent roomId sessionIds row).filter fun event => stays source fetched event.eventId := by
  cases isolated : isolatedEvent roomId sessionIds row with
  | none =>
    refine Option.eq_none_iff_forall_ne_some.mpr fun event found => ?_
    obtain ⟨after, rewrote, found⟩ := Option.bind_eq_some_iff.mp found
    obtain ⟨_, _, undecryptable, _⟩ := isolated_event_row found
    unfold rewritten at rewrote
    (repeat' split at rewrote) <;> cases rewrote <;> simp_all
  | some event =>
    obtain ⟨named, room, reason, _⟩ := isolated_event_row isolated
    rw [Option.filter_some]
    unfold rewritten stays
    simp only [named, room, reason, true_and]
    by_cases read : event.eventId ∈ fetched
    · cases answer : source event.eventId with
      | error failure => simp [read, isolated, Except.toOption]
      | ok reread =>
        cases reread with
        | recovered => simp [read, Except.toOption]
        | dismissed => simp [read, Except.toOption]
        | isolated again =>
          by_cases same : again = .undecryptable
          · simp [read, same, isolated, Except.toOption]
          · simp [read, same, isolatedEvent, Except.toOption]
    · simp [read, isolated]

theorem written_isolated (fetched : List MatrixEventId) (issues : List IssueRow) :
    (writeRecovered source roomId fetched issues).filterMap (isolatedEvent roomId sessionIds) =
      (issues.filterMap (isolatedEvent roomId sessionIds)).filter fun event => stays source fetched event.eventId := by
  rw [writeRecovered, List.filterMap_filterMap, List.filter_filterMap]
  exact List.filterMap_congr fun row _ => rewritten_isolated fetched row

-- What the store is handed for the events of a page that were read again.
structure ReadAgain (source : RecoverySource) (fetched : List MatrixEventId) (batch : MessageRecoveryBatch) : Prop where
  recovered : ∀ eventId, (∃ mutation ∈ batch.recovered, mutation.eventId = eventId) ↔ eventId ∈ fetched ∧ source eventId = .ok .recovered
  reclassified : ∀ eventId, (∃ issue ∈ batch.reclassified, issue.eventId = some eventId) ↔
    eventId ∈ fetched ∧ ∃ reason, reason ≠ .undecryptable ∧ source eventId = .ok (.isolated reason)
  changed : ∀ issue ∈ batch.reclassified, issue.reason ≠ .undecryptable
  dismissed : ∀ eventId, eventId ∈ batch.dismissed ↔ eventId ∈ fetched ∧ source eventId = .ok .dismissed

section

variable (roomId : MatrixRoomId) (sessionIds : List String)

def Leaves (tables next : Tables) (left : ReservedIsolatedEvent → Bool) : Prop :=
  next.issues.filterMap (isolatedEvent roomId sessionIds) = (tables.issues.filterMap (isolatedEvent roomId sessionIds)).filter left

variable {roomId sessionIds} {tables next : Tables}

theorem isolated_undecryptable {row : IssueRow} {event : ReservedIsolatedEvent}
    (isolated : isolatedEvent roomId sessionIds row = some event) (eventId : MatrixEventId) :
    Tables.undecryptable roomId eventId row = decide (event.eventId = eventId) := by
  obtain ⟨named, room, reason, _⟩ := isolated_event_row isolated
  simp [Tables.undecryptable, named, room, reason]

theorem forgotten_leaves (tables : Tables) (eventId : MatrixEventId) :
    Leaves roomId sessionIds tables (tables.forgetUndecryptable roomId eventId) fun event => event.eventId ≠ eventId := by
  rw [Leaves, Tables.forgetUndecryptable, List.filterMap_filter, List.filter_filterMap]
  refine List.filterMap_congr fun row _ => ?_
  cases isolated : isolatedEvent roomId sessionIds row with
  | none => simp
  | some event => simp [isolated_undecryptable isolated, Option.filter_some]

theorem recovered_leaves {mutation : MessageProjectionMutation} (run : Tables.recoverMutation roomId tables mutation = .ok next) :
    Leaves roomId sessionIds tables next fun event => event.eventId ≠ mutation.eventId := by
  unfold Tables.recoverMutation at run
  split at run
  · cases run
  · split at run
    · rename_i unreserved
      cases run
      refine (List.filter_eq_self.mpr fun event listed => decide_eq_true ?_).symm
      intro same
      obtain ⟨row, there, isolated⟩ := List.mem_filterMap.mp listed
      obtain ⟨_, _, _, reserved⟩ := isolated_event_row isolated
      have found := List.mem_filterMap.mpr ⟨row, List.mem_filter.mpr
        ⟨there, (isolated_undecryptable isolated _).trans (decide_eq_true same)⟩, reserved⟩
      rw [List.min?_eq_none_iff.mp unreserved] at found
      cases found
    · obtain ⟨encoded, _, run⟩ := unbind run
      obtain ⟨written, writes, run⟩ := unbind run
      cases run
      have kept : written.issues = tables.issues := by
        rcases Tables.write_mutation_log writes with ⟨same, _⟩ | ⟨_, _, _, same⟩ <;> rw [same]
      rw [Leaves, ← kept]
      exact forgotten_leaves written mutation.eventId

theorem reclassified_leaves (tables : Tables) {issue : MessageSyncIssue} (changed : issue.reason ≠ .undecryptable) :
    Leaves roomId sessionIds tables (Tables.reclassifyIssue roomId tables issue) fun event => issue.eventId ≠ some event.eventId := by
  unfold Tables.reclassifyIssue Leaves
  cases named : issue.eventId with
  | none => simp
  | some eventId =>
    rw [List.filterMap_filterMap, List.filter_filterMap]
    refine List.filterMap_congr fun row _ => ?_
    have moved : isolatedEvent roomId sessionIds { row with reason := issue.reason, reservedSequence := none, session := none } = none :=
      if_neg fun mine => changed mine.2.1
    cases isolated : isolatedEvent roomId sessionIds row with
    | none =>
      dsimp only
      split_ifs <;> simp [moved, isolated]
    | some event =>
      rw [Option.filter_some]
      by_cases same : event.eventId = eventId
      · simp [isolated_undecryptable isolated, same, moved]
      · simp [isolated_undecryptable isolated, same, Ne.symm same]
        -- A row that gives way has the new reason already.
        rw [if_neg, Option.bind_some, isolated]
        rintro ⟨other, _, _, clash⟩
        simp [Tables.sameIssue, (isolated_event_row isolated).2.2.1, changed.symm] at clash

theorem each_leaves {step : Tables → ι → StoreResult Tables} (left : ι → ReservedIsolatedEvent → Bool) {items : List ι}
    (each : ∀ item ∈ items, ∀ tables next, step tables item = .ok next → Leaves roomId sessionIds tables next (left item))
    (run : items.foldlM step tables = .ok next) : Leaves roomId sessionIds tables next fun event => items.all (left · event) := by
  induction items generalizing tables with
  | nil =>
    cases run
    simp [Leaves]
  | cons item rest ih =>
    obtain ⟨middle, first, later⟩ := unbind run
    have rest := ih (fun other listed => each other (List.mem_cons_of_mem item listed)) later
    rw [Leaves, each item List.mem_cons_self _ _ first, List.filter_filter] at rest
    exact rest.trans (List.filter_congr fun event _ => by rw [List.all_cons, Bool.and_comm])

-- The rounds go on with what the store's own transaction leaves isolated.
theorem store_leaves_written {source : RecoverySource} {fetched : List MatrixEventId} {batch : MessageRecoveryBatch}
    (again : ReadAgain source fetched batch) (run : tables.applyRecoveryBatch batch = .ok next) :
    next.issues.filterMap (isolatedEvent batch.roomId sessionIds) =
      (writeRecovered source batch.roomId fetched tables.issues).filterMap (isolatedEvent batch.roomId sessionIds) := by
  obtain ⟨recovered, first, run⟩ := unbind run
  have recovers : Leaves batch.roomId sessionIds tables recovered _ := each_leaves _ (fun _ _ _ _ done => recovered_leaves done) first
  have reclassifies : Leaves batch.roomId sessionIds recovered _ _ := each_leaves (fun (issue : MessageSyncIssue) event => issue.eventId ≠ some event.eventId)
    (by rintro issue listed tables _ ⟨⟩; exact reclassified_leaves tables (again.changed issue listed)) List.foldlM_pure
  have dismisses : Leaves batch.roomId sessionIds _ next _ := each_leaves (fun (eventId : MatrixEventId) event => event.eventId ≠ eventId)
    (by rintro eventId _ tables _ ⟨⟩; exact forgotten_leaves tables eventId) (List.foldlM_pure.trans run)
  rw [dismisses, reclassifies, recovers, written_isolated, List.filter_filter, List.filter_filter]
  refine List.filter_congr fun event _ => ?_
  have recovered := again.recovered event.eventId
  have reclassified := again.reclassified event.eventId
  have dismissed := again.dismissed event.eventId
  by_cases read : event.eventId ∈ fetched
  · cases answer : source event.eventId with
    | error failure => grind [stays, Except.toOption]
    | ok reread => cases reread <;> grind [stays, Except.toOption]
  · grind [stays]

end

theorem stays_listed (isolated : RisingRows issues roomId sessionIds) (fetched : List MatrixEventId) :
    RisingRows (writeRecovered source roomId fetched issues) roomId sessionIds where
  positive := by
    rw [written_isolated]
    exact fun event listed => isolated.positive event (List.mem_of_mem_filter listed)
  rising := by
    rw [written_isolated]
    exact isolated.rising.filter _
  distinct := by
    rw [written_isolated]
    exact isolated.distinct.sublist (List.filter_sublist.map _)

theorem before_last {events : List ReservedIsolatedEvent} (rising : events.Pairwise (·.position < ·.position))
    {last : ReservedIsolatedEvent} (ends : events.getLast? = some last) : ∀ event ∈ events, event.position ≤ last.position := by
  obtain ⟨before, rfl⟩ := List.getLast?_eq_some_iff.mp ends
  intro event listed
  rcases List.mem_append.mp listed with earlier | same
  · exact Nat.le_of_lt ((List.pairwise_append.mp rising).2.2 event earlier last List.mem_cons_self)
  · exact Nat.le_of_eq (congrArg _ (List.mem_singleton.mp same))

theorem rising_rest {events : List ReservedIsolatedEvent} (rising : events.Pairwise (·.position < ·.position))
    (count : Nat) {last : ReservedIsolatedEvent} (ends : (events.take count).getLast? = some last) :
    events.filter (last.position < ·.position) = events.drop count := by
  have split := List.take_append_drop count events
  have order := rising
  rw [← split, List.pairwise_append] at order
  have early : (events.take count).filter (last.position < ·.position) = [] :=
    List.filter_eq_nil_iff.mpr fun event listed less =>
      Nat.not_lt.mpr (before_last order.1 ends event listed) (of_decide_eq_true less)
  have late : (events.drop count).filter (last.position < ·.position) = events.drop count :=
    List.filter_eq_self.mpr fun event listed =>
      decide_eq_true (order.2.2 last (List.mem_of_getLast? ends) event listed)
  calc events.filter (last.position < ·.position)
      = (events.take count ++ events.drop count).filter (last.position < ·.position) := by rw [split]
    _ = events.drop count := by rw [List.filter_append, early, late, List.nil_append]

theorem rest_after (isolated : RisingRows issues roomId sessionIds) {last : ReservedIsolatedEvent}
    (ends : ((isolatedAfter issues roomId sessionIds after).take recoveryPageEvents).getLast? = some last) :
    isolatedAfter (writeRecovered source roomId
        (((isolatedAfter issues roomId sessionIds after).take recoveryPageEvents).map (·.eventId)) issues)
      roomId sessionIds last.position = (isolatedAfter issues roomId sessionIds after).drop recoveryPageEvents := by
  have rising : (isolatedAfter issues roomId sessionIds after).Pairwise (·.position < ·.position) := isolated.rising.filter _
  have reached : after < last.position :=
    of_decide_eq_true (List.mem_filter.mp (List.mem_of_mem_take (List.mem_of_getLast? ends))).2
  rw [← rising_rest rising _ ends]
  simp only [isolatedAfter, written_isolated, List.filter_filter]
  refine List.filter_congr fun event listed => ?_
  by_cases later : last.position < event.position
  · have unread : event.eventId ∉
        ((isolatedAfter issues roomId sessionIds after).take recoveryPageEvents).map (·.eventId) := by
      intro read
      obtain ⟨other, among, same⟩ := List.mem_map.mp read
      have equal := List.inj_on_of_nodup_map isolated.distinct
        (List.mem_of_mem_filter (List.mem_of_mem_take among)) listed same
      have bound := before_last (rising.sublist (List.take_sublist ..)) ends other among
      rw [equal] at bound
      omega
    have passed : after < event.position := by omega
    exact congrArg (decide (last.position < event.position) && ·)
      ((decide_eq_true (.inl unread)).trans (decide_eq_true passed).symm)
  · simp [later]

theorem room_fetches (steady : Steady source) (isolated : RisingRows issues roomId sessionIds) (budget : Nat)
    (left : 0 < budget) (fetched : List MatrixEventId) :
    (recoverRoom source roomId sessionIds after ⟨issues, budget, fetched⟩).2.fetched =
      fetched ++ ((isolatedAfter issues roomId sessionIds after).take budget).map (·.eventId) := by
  induction budget using Nat.strongRecOn generalizing after issues fetched with
  | ind budget ih =>
    unfold recoverRoom
    have page : undecryptableEvents issues roomId sessionIds after recoveryPageEvents =
        (isolatedAfter issues roomId sessionIds after).take recoveryPageEvents := by
      rw [undecryptableEvents, sorted_isolated isolated.rising, isolatedAfter]
    simp only [page, fetch_page_steady steady]
    have next := @rest_after source roomId sessionIds issues after isolated
    generalize isolatedAfter issues roomId sessionIds after = rest at *
    cases ends : (rest.take recoveryPageEvents).getLast? with
    | none =>
      have none : rest = [] := by
        simpa [recoveryPageEvents] using List.getLast?_eq_none_iff.mp ends
      simp [none]
    | some last =>
      have length : (rest.take recoveryPageEvents).length = min recoveryPageEvents rest.length := List.length_take ..
      have taken : ((rest.take recoveryPageEvents).take budget).length =
          min budget (min recoveryPageEvents rest.length) := by rw [List.length_take, length]
      by_cases spent : budget - ((rest.take recoveryPageEvents).take budget).length = 0
      · simp only [spent, Bool.false_eq_true, or_true, if_true]
        have within : budget ≤ recoveryPageEvents := by omega
        rw [List.take_take, Nat.min_eq_left within]
      · have whole : (rest.take recoveryPageEvents).take budget = rest.take recoveryPageEvents :=
          List.take_of_length_le (by omega)
        simp only [spent, Bool.false_eq_true, or_self, if_false]
        rw [whole] at spent taken ⊢
        by_cases short : (rest.take recoveryPageEvents).length < recoveryPageEvents
        · rw [if_pos short, List.take_of_length_le (by omega), List.take_of_length_le (by omega)]
        · have read : 0 < recoveryPageEvents := by decide
          rw [if_neg short, ih _ (by omega) (stays_listed isolated _) (by omega), next ends, List.append_assoc, ← List.map_append]
          refine congrArg (fetched ++ List.map _ ·) ?_
          rw [← List.take_add, taken]
          exact congrArg (List.take · rest) (by omega)

theorem isolated_after_zero (isolated : RisingRows issues roomId sessionIds) :
    isolatedAfter issues roomId sessionIds 0 = issues.filterMap (isolatedEvent roomId sessionIds) :=
  List.filter_eq_self.mpr fun event listed => decide_eq_true (isolated.positive event listed)

def stillUndecryptable : RecoverySource := fun _ => .ok (.isolated .undecryptable)

theorem undecryptable_steady : Steady stillUndecryptable := nofun

theorem undecryptable_kept (fetched : List MatrixEventId) (issues : List IssueRow) :
    writeRecovered stillUndecryptable roomId fetched issues = issues := by
  refine (List.filterMap_congr fun row _ => ?_).trans List.filterMap_some
  unfold rewritten
  split
  · rfl
  · split <;> rfl

theorem undecryptable_room (progress : RecoveryProgress) :
    (recoverRoom stillUndecryptable roomId sessionIds after progress).2.issues = progress.issues := by
  fun_induction recoverRoom stillUndecryptable roomId sessionIds after progress with
  | case1 => rfl
  | case2 => exact undecryptable_kept ..
  | case3 => exact undecryptable_kept ..
  | case4 _ _ _ _ _ _ _ _ _ ih => exact ih.trans (undecryptable_kept ..)

-- Each round starts again from the first row, so the rows behind a full round are not reached.
theorem undecryptable_rounds (isolated : RisingRows issues roomId sessionIds) (count : Nat) :
    ∀ eventId ∈ rounds stillUndecryptable roomId sessionIds count issues,
      eventId ∈ ((issues.filterMap (isolatedEvent roomId sessionIds)).take maxEventsPerRound).map (·.eventId) := by
  induction count with
  | zero => nofun
  | succ count ih =>
    intro eventId listed
    rw [rounds, round_progress, undecryptable_room, room_fetches undecryptable_steady isolated _ (by decide),
      isolated_after_zero isolated] at listed
    exact (List.mem_append.mp listed).elim id (ih eventId)

theorem undecryptable_missed (isolated : RisingRows issues roomId sessionIds) (count : Nat)
    (many : maxEventsPerRound < (issues.filterMap (isolatedEvent roomId sessionIds)).length) :
    ¬ ∀ event ∈ issues.filterMap (isolatedEvent roomId sessionIds),
      event.eventId ∈ rounds stillUndecryptable roomId sessionIds count issues := by
  intro reached
  have split := List.drop_eq_getElem_cons many
  have last := List.getElem_mem many
  obtain ⟨other, among, same⟩ := List.mem_map.mp (undecryptable_rounds isolated count _ (reached _ last))
  have distinct := isolated.distinct
  rw [← List.take_append_drop maxEventsPerRound (issues.filterMap (isolatedEvent roomId sessionIds)), List.map_append,
    split] at distinct
  exact (List.nodup_append.mp distinct).2.2 _ (List.mem_map_of_mem among) _ List.mem_cons_self same

-- Rounds reach every event of any size that one round can hold, and of no other.
theorem rounds_reach_one_round (issues : List IssueRow) (roomId : MatrixRoomId) (sessionIds : List String)
    (isolated : RisingRows issues roomId sessionIds) : let events := issues.filterMap (isolatedEvent roomId sessionIds)
    (∀ source, Steady source → ∀ event ∈ events,
      event.eventId ∈ rounds source roomId sessionIds ((events.length + 999) / maxEventsPerRound) issues) ↔
      events.length ≤ maxEventsPerRound := by
  intro events
  constructor
  · intro reached
    exact Nat.not_lt.mp fun many => undecryptable_missed isolated _ many (reached _ undecryptable_steady)
  · intro few source steady event listed
    have size : 0 < events.length := List.length_pos_of_mem listed
    have once : (events.length + 999) / maxEventsPerRound = 1 := by
      unfold maxEventsPerRound at *
      omega
    rw [once, rounds, round_progress, room_fetches steady isolated _ (by decide), isolated_after_zero isolated,
      List.take_of_length_le few]
    exact List.mem_append_left _ (List.mem_map_of_mem listed)

def issueRow (index : Nat) : IssueRow where
  syncToken := ⟨"s1"⟩
  roomId := ⟨"!room:x"⟩
  eventId := some ⟨String.ofList (List.replicate index 'x')⟩
  reason := .undecryptable
  reservedSequence := some (index + 1)
  session := some ⟨"@ada:x", none, "megolm"⟩

theorem issue_rows_isolated (count : Nat) : ((List.range count).map issueRow).filterMap (isolatedEvent ⟨"!room:x"⟩ ["megolm"]) =
      (List.range count).map fun index => ⟨⟨String.ofList (List.replicate index 'x')⟩, index + 1⟩ := by
  rw [List.filterMap_map, ← List.filterMap_eq_map]
  exact List.filterMap_congr fun index _ => by simp [issueRow, isolatedEvent]

theorem issue_rows_listed (count : Nat) : RisingRows ((List.range count).map issueRow) ⟨"!room:x"⟩ ["megolm"] where
  positive := by
    rw [issue_rows_isolated]
    rintro event listed
    obtain ⟨index, _, rfl⟩ := List.mem_map.mp listed
    exact Nat.succ_pos index
  rising := by
    rw [issue_rows_isolated, List.pairwise_map]
    exact List.pairwise_lt_range.imp Nat.succ_lt_succ
  distinct := by
    rw [issue_rows_isolated, List.map_map]
    refine List.Nodup.map (fun first second same => ?_) List.nodup_range
    simpa using congrArg List.length (String.ofList_injective (MatrixEventId.mk.inj same))

theorem one_isolated_event_reached : (∀ source, Steady source → ∀ event ∈ [(⟨⟨""⟩, 1⟩ : ReservedIsolatedEvent)],
      event.eventId ∈ rounds source ⟨"!room:x"⟩ ["megolm"] 1 [issueRow 0]) ↔ 1 ≤ maxEventsPerRound :=
  rounds_reach_one_round [issueRow 0] ⟨"!room:x"⟩ ["megolm"] (issue_rows_listed 1)

theorem last_of_1001_missed : ¬ ∀ event ∈ ((List.range 1001).map issueRow).filterMap (isolatedEvent ⟨"!room:x"⟩ ["megolm"]),
      event.eventId ∈ rounds stillUndecryptable ⟨"!room:x"⟩ ["megolm"] 2 ((List.range 1001).map issueRow) := by
  refine undecryptable_missed (issue_rows_listed 1001) 2 ?_
  rw [issue_rows_isolated, List.length_map, List.length_range]
  decide

end AgentRoom.MessageSync
