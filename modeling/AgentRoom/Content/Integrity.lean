import AgentRoom.Content.Object

namespace AgentRoom.Content

inductive ContentStreamFailureKind where
  | source
  | sizeLimitExceeded
  | integrityMismatch
  | storageUnavailable

structure ContentStreamFailure where
  operation : String
  kind : ContentStreamFailureKind

def integrityFailure : ContentStreamFailure := ⟨"content.open.verify_integrity", .integrityMismatch⟩

abbrev StreamItem := Except ContentStreamFailure (List UInt8)

-- A finished stream has let go of its source, so it cannot touch it again. The hasher
-- is the bytes that went into it.
inductive IntegrityState where
  | reading (source : List StreamItem) (hasher : List UInt8) (observedLength : Nat)
  | finished

def IntegrityState.unread : IntegrityState → Nat
  | .reading source _ _ => source.length + 1
  | .finished => 0

section

variable (sha256 : List UInt8 → Sha256Digest) (expectedDigest : Sha256Digest) (expectedLength : ContentByteLength)

def poll : IntegrityState → Option (StreamItem × IntegrityState)
  | .finished => none
  | .reading (.ok chunk :: source) hasher observedLength =>
    let observedLength := observedLength + min chunk.length u64Max
    if u64Max < observedLength then some (.error integrityFailure, .finished)
    else if expectedLength.value < observedLength then some (.error integrityFailure, .finished)
    else some (.ok chunk, .reading source (hasher ++ chunk) observedLength)
  | .reading (.error failure :: _) _ _ => some (.error failure, .finished)
  | .reading [] hasher observedLength =>
    if observedLength = expectedLength.value ∧ sha256 hasher = expectedDigest then none
    else some (.error integrityFailure, .finished)

variable {sha256 expectedDigest expectedLength} in
theorem poll_reads {state next : IntegrityState} {item : StreamItem}
    (polled : poll sha256 expectedDigest expectedLength state = some (item, next)) : next.unread < state.unread := by
  unfold poll at polled
  split at polled
  · cases polled
  · dsimp only at polled
    split at polled
    · cases polled
      exact Nat.succ_pos _
    · split at polled
      · cases polled
        exact Nat.succ_pos _
      · cases polled
        exact Nat.lt_succ_self _
  · cases polled
    exact Nat.succ_pos _
  · split at polled
    · cases polled
    · cases polled
      exact Nat.succ_pos _

def unfold (state : IntegrityState) : List StreamItem :=
  match polled : poll sha256 expectedDigest expectedLength state with
  | none => []
  | some (item, next) =>
    have := poll_reads polled
    item :: unfold next
termination_by state.unread

def integrityCheckedStream (source : List StreamItem) : List StreamItem :=
  unfold sha256 expectedDigest expectedLength (.reading source [] 0)

end

def yielded (items : List StreamItem) : List UInt8 := items.flatMap fun item => item.toOption.getD []

def Unflagged (items : List StreamItem) : Prop := ∀ failure, .error failure ∉ items

@[simp] theorem yielded_ok (chunk : List UInt8) (items : List StreamItem) :
    yielded (.ok chunk :: items) = chunk ++ yielded items := rfl

theorem unfold_none (polled : poll sha256 expectedDigest expectedLength state = none) :
    unfold sha256 expectedDigest expectedLength state = [] := by
  rw [unfold]
  split
  · rfl
  · rename_i found
    cases polled.symm.trans found

theorem unfold_item (polled : poll sha256 expectedDigest expectedLength state = some (item, next)) :
    unfold sha256 expectedDigest expectedLength state = item :: unfold sha256 expectedDigest expectedLength next := by
  rw [unfold]
  split
  · rename_i none
    cases polled.symm.trans none
  · rename_i found
    cases polled.symm.trans found
    rfl

theorem unfold_flagged {failure : ContentStreamFailure} (polled : poll sha256 expectedDigest expectedLength state = some (.error failure, .finished)) :
    unfold sha256 expectedDigest expectedLength state = [.error failure] := by
  rw [unfold_item polled, unfold_none rfl]

structure Checked (sha256 : List UInt8 → Sha256Digest) (expectedDigest : Sha256Digest) (expectedLength : ContentByteLength)
    (source : List StreamItem) (hasher : List UInt8) (stream : List StreamItem) : Prop where
  within : yielded stream <+: yielded source
  short : hasher.length + (yielded stream).length ≤ expectedLength.value
  whole : Unflagged stream → yielded stream = yielded source
  complete : Unflagged stream ↔ Unflagged source ∧ hasher.length + (yielded source).length = expectedLength.value ∧
    sha256 (hasher ++ yielded source) = expectedDigest
  flagged : ∀ before failure after, stream = before ++ .error failure :: after → after = []

theorem flag_checked {failure : ContentStreamFailure} (short : hasher.length ≤ expectedLength.value)
    (incomplete : ¬ (Unflagged source ∧ hasher.length + (yielded source).length = expectedLength.value ∧
      sha256 (hasher ++ yielded source) = expectedDigest)) :
    Checked sha256 expectedDigest expectedLength source hasher [.error failure] where
  within := List.nil_prefix
  short := short
  whole := fun unflagged => absurd List.mem_cons_self (unflagged failure)
  complete := ⟨fun unflagged => absurd List.mem_cons_self (unflagged failure), fun complete => absurd complete incomplete⟩
  flagged := by
    intro before failure after split
    rcases List.append_eq_cons_iff.mp split.symm with ⟨_, same⟩ | ⟨rest, _, same⟩
    · exact (List.cons.inj same).2
    · simp at same

theorem reading_checked {sha256 : List UInt8 → Sha256Digest} {expectedDigest : Sha256Digest}
    {expectedLength : ContentByteLength} (source : List StreamItem) {hasher : List UInt8} (short : hasher.length ≤ expectedLength.value) :
    Checked sha256 expectedDigest expectedLength source hasher
      (unfold sha256 expectedDigest expectedLength (.reading source hasher hasher.length)) := by
  induction source generalizing hasher with
  | nil =>
    by_cases complete : hasher.length = expectedLength.value ∧ sha256 hasher = expectedDigest
    · have polled : poll sha256 expectedDigest expectedLength (.reading [] hasher hasher.length) = none := if_pos complete
      rw [unfold_none polled]
      exact {
        within := List.prefix_refl _
        short := short
        whole := fun _ => rfl
        complete := by simpa [Unflagged, yielded] using complete
        flagged := by simp }
    · have polled : poll sha256 expectedDigest expectedLength (.reading [] hasher hasher.length) =
          some (.error integrityFailure, .finished) := if_neg complete
      rw [unfold_flagged polled]
      refine flag_checked short fun ⟨_, same⟩ => complete ?_
      simpa [yielded] using same
  | cons item source ih =>
    cases item with
    | error failure =>
      rw [unfold_flagged rfl]
      exact flag_checked short fun ⟨unflagged, _⟩ => unflagged failure List.mem_cons_self
    | ok chunk =>
      have bounded := expectedLength.bounded
      by_cases overrun : expectedLength.value < hasher.length + min chunk.length u64Max
      · have polled : poll sha256 expectedDigest expectedLength (.reading (.ok chunk :: source) hasher hasher.length) =
            some (.error integrityFailure, .finished) := by
          simp [poll, if_pos overrun]
        rw [unfold_flagged polled]
        refine flag_checked short fun ⟨_, same, _⟩ => ?_
        rw [yielded_ok, List.length_append] at same
        omega
      · have fits : ¬ u64Max < hasher.length + min chunk.length u64Max := by
          unfold maxContentBytes u64Max at *
          omega
        have length : min chunk.length u64Max = chunk.length := by
          unfold maxContentBytes u64Max at *
          omega
        have polled : poll sha256 expectedDigest expectedLength (.reading (.ok chunk :: source) hasher hasher.length) =
            some (.ok chunk, .reading source (hasher ++ chunk) (hasher ++ chunk).length) := by
          rw [poll, if_neg fits, if_neg overrun, length, List.length_append]
        rw [length, Nat.not_lt, ← List.length_append] at overrun
        have rest := ih overrun
        rw [unfold_item polled]
        exact {
          within := (List.prefix_append_right_inj chunk).mpr rest.within
          short := by
            have short := rest.short
            rw [List.length_append] at short
            simpa [Nat.add_assoc] using short
          whole := by
            intro unflagged
            rw [yielded_ok, yielded_ok, rest.whole fun failure there => unflagged failure (List.mem_cons_of_mem _ there)]
          complete := by
            have complete := rest.complete
            simp only [List.length_append, Nat.add_assoc, List.append_assoc] at complete
            simpa [Unflagged] using complete
          flagged := by
            rintro (_ | ⟨first, before⟩) failure after split
            · cases split
            · exact rest.flagged before failure after (List.cons.inj split).2 }

theorem stream_is_complete_or_flagged (sha256 : List UInt8 → Sha256Digest) (expectedDigest : Sha256Digest)
    (expectedLength : ContentByteLength) (source : List StreamItem) :
    let stream := integrityCheckedStream sha256 expectedDigest expectedLength source
    (yielded stream <+: yielded source ∧ (yielded stream).length ≤ expectedLength.value) ∧
    (Unflagged stream → yielded stream = yielded source) ∧
    (Unflagged stream ↔ Unflagged source ∧ (yielded source).length = expectedLength.value ∧
      sha256 (yielded source) = expectedDigest) ∧
    (∀ before failure after, stream = before ++ .error failure :: after → after = []) ∧
    ∀ state failure next, poll sha256 expectedDigest expectedLength state = some (.error failure, next) →
      next = .finished ∧ poll sha256 expectedDigest expectedLength next = none := by
  have checked := @reading_checked sha256 expectedDigest expectedLength source [] (Nat.zero_le _)
  refine ⟨⟨checked.within, by simpa [integrityCheckedStream] using checked.short⟩, checked.whole,
    by simpa [integrityCheckedStream] using checked.complete, checked.flagged, ?_⟩
  intro state failure next polled
  have finished : next = .finished := by
    unfold poll at polled
    split at polled
    · cases polled
    · dsimp only at polled
      split at polled
      · cases polled
        rfl
      · split at polled <;> cases polled
        rfl
    · cases polled
      rfl
    · split at polled <;> cases polled
      rfl
  exact ⟨finished, finished ▸ rfl⟩

end AgentRoom.Content
