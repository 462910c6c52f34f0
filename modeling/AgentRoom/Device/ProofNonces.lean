import AgentRoom.Device.Refresh

namespace AgentRoom.DeviceProofs

open Library

structure ProofPolicy where
  proofMaximumAge : DurationMillis
  allowedClockSkew : DurationMillis

def proofExpiresAt (policy : ProofPolicy) (issuedAt : UtcMillis) : DomainResult UtcMillis := do
  let aged ← issuedAt.checkedAdd policy.proofMaximumAge
  aged.checkedAdd policy.allowedClockSkew

def validateProofTime (policy : ProofPolicy) (issuedAt now : UtcMillis) : Except DeviceAuthorizationFailureKind Unit := do
  let latestAllowed ← mapError .internal (now.checkedAdd policy.allowedClockSkew)
  let expiresAt ← mapError .internal (proofExpiresAt policy issuedAt)
  ensure .invalidProof (¬ (latestAllowed < issuedAt ∨ expiresAt < now))

-- A row of device_proof_nonce, of the one device that is looked at.
structure NonceRow (Digest : Type) where
  nonceDigest : Digest
  consumedAt : UtcMillis
  expiresAt : UtcMillis
  ordered : consumedAt < expiresAt

-- What a statement's transaction comes to: it may fail, and the answer to its commit may get lost.
inductive Commit where
  | answered
  | lost
  | failed

structure ProofCall (Nonce : Type) where
  issuedAt : UtcMillis
  nonce : Nonce
  now : UtcMillis
  signed : Bool
  commit : Commit

variable {Nonce Digest : Type} [DecidableEq Digest] (policy : ProofPolicy) (digest : Nonce → Digest)

section

variable (rows : List (NonceRow Digest))

def purge (consumedAt : UtcMillis) : List (NonceRow Digest) :=
  rows.filter fun row => ¬ row.expiresAt < consumedAt

-- The purge and the INSERT .. ON CONFLICT DO NOTHING; the table's CHECK comes before the conflict.
def consume (nonceDigest : Digest) (consumedAt expiresAt : UtcMillis) (commit : Commit) :
    List (NonceRow Digest) × Except RepositoryError Bool :=
  if ordered : consumedAt < expiresAt then
    let kept := purge rows consumedAt
    let taken := kept.any fun row => row.nonceDigest = nonceDigest
    let next := if taken then kept else ⟨nonceDigest, consumedAt, expiresAt, ordered⟩ :: kept
    match commit with
    | .answered => (next, .ok !taken)
    | .lost => (next, .error ⟨"device_nonce.consume", .unavailable⟩)
    | .failed => (rows, .error ⟨"device_nonce.consume", .unavailable⟩)
  else (rows, .error ⟨"device_nonce.consume", .constraint⟩)

def verifyRequestProof (call : ProofCall Nonce) : List (NonceRow Digest) × Except DeviceAuthorizationFailureKind Unit :=
  match validateProofTime policy call.issuedAt call.now with
  | .error kind => (rows, .error kind)
  | .ok () =>
    if call.signed = false then (rows, .error .invalidProof)
    else
      match proofExpiresAt policy call.issuedAt with
      | .error _ => (rows, .error .internal)
      | .ok expiresAt =>
        let (next, consumed) := consume rows (digest call.nonce) call.now expiresAt call.commit
        (next, (consumed.mapError mapRepositoryFailure).bind fun fresh => if fresh then .ok () else .error .proofReplay)

def accepts (call : ProofCall Nonce) : Bool :=
  (verifyRequestProof policy digest rows call).2.isOk

def rowsAfter (calls : List (ProofCall Nonce)) : List (NonceRow Digest) :=
  calls.foldl (fun rows call => (verifyRequestProof policy digest rows call).1) rows

end

def accepted : List (NonceRow Digest) → List (ProofCall Nonce) → List (ProofCall Nonce)
  | _, [] => []
  | rows, call :: rest =>
    let later := accepted (verifyRequestProof policy digest rows call).1 rest
    if accepts policy digest rows call then call :: later else later

def Recorded (rows : List (NonceRow Digest)) (call : ProofCall Nonce) : Prop :=
  ∃ row ∈ rows, row.nonceDigest = digest call.nonce ∧ .ok row.expiresAt = proofExpiresAt policy call.issuedAt

variable {policy} {digest}

theorem validate_ok (valid : validateProofTime policy issuedAt now = .ok ()) :
    ∃ expiresAt, proofExpiresAt policy issuedAt = .ok expiresAt ∧ now ≤ expiresAt := by
  simp only [validateProofTime, bind_ok, ensure_ok] at valid
  obtain ⟨latestAllowed, _, expiresAt, expires, inTime⟩ := valid
  cases deadline : proofExpiresAt policy issuedAt with
  | error failure => simp [deadline, mapError] at expires
  | ok last =>
    rw [deadline, map_error_ok, Except.ok.injEq] at expires
    subst expires
    exact ⟨last, rfl, (UtcMillis.not_lt_iff ..).mp (not_or.mp inTime).2⟩

theorem consume_keeps {row : NonceRow Digest} (held : row ∈ rows) (current : consumedAt ≤ row.expiresAt) :
    row ∈ (consume rows nonceDigest consumedAt expiresAt commit).1 := by
  have kept : row ∈ purge rows consumedAt := List.mem_filter.mpr ⟨held, decide_eq_true ((UtcMillis.not_lt_iff ..).mpr current)⟩
  unfold consume
  split
  · cases commit with
    | failed => exact held
    | answered | lost =>
      dsimp only
      split
      · exact kept
      · exact List.mem_cons_of_mem _ kept
  · exact held

theorem consume_fresh {rows : List (NonceRow Digest)}
    (fresh : (consume rows nonceDigest consumedAt expiresAt commit).2 = .ok true) :
    (∀ row ∈ rows, row.nonceDigest = nonceDigest → row.expiresAt < consumedAt) ∧
      ∃ row ∈ (consume rows nonceDigest consumedAt expiresAt commit).1, row.nonceDigest = nonceDigest ∧ row.expiresAt = expiresAt := by
  unfold consume at fresh ⊢
  split at fresh
  · rename_i ordered
    rw [dif_pos ordered]
    cases commit with
    | lost | failed => cases fresh
    | answered =>
      have absent : (purge rows consumedAt).any (fun row => row.nonceDigest = nonceDigest) = false := by simpa using fresh
      refine ⟨?_, ?_⟩
      · intro row held same
        by_contra current
        have kept : row ∈ purge rows consumedAt := List.mem_filter.mpr ⟨held, decide_eq_true current⟩
        exact List.any_eq_false.mp absent row kept (decide_eq_true same)
      · simp only [absent]
        exact ⟨_, List.mem_cons_self, rfl, rfl⟩
  · cases fresh

theorem verify_keeps {earlier call : ProofCall Nonce} (recorded : Recorded policy digest rows earlier)
    (lasts : proofExpiresAt policy earlier.issuedAt = .ok last) (current : call.now ≤ last) :
    Recorded policy digest (verifyRequestProof policy digest rows call).1 earlier := by
  obtain ⟨row, held, same, expires⟩ := recorded
  have ending : row.expiresAt = last := Except.ok.inj (expires.trans lasts)
  unfold verifyRequestProof
  split
  · exact ⟨row, held, same, expires⟩
  · split
    · exact ⟨row, held, same, expires⟩
    · split
      · exact ⟨row, held, same, expires⟩
      · exact ⟨row, consume_keeps held (ending ▸ current), same, expires⟩

theorem accepts_fresh {rows : List (NonceRow Digest)} (taken : accepts policy digest rows call = true) :
    (∃ last, proofExpiresAt policy call.issuedAt = .ok last ∧ call.now ≤ last) ∧
      (∀ row ∈ rows, row.nonceDigest = digest call.nonce → row.expiresAt < call.now) ∧
      Recorded policy digest (verifyRequestProof policy digest rows call).1 call := by
  unfold accepts verifyRequestProof at taken
  unfold Recorded verifyRequestProof
  cases valid : validateProofTime policy call.issuedAt call.now with
  | error kind => simp [valid, Except.isOk, Except.toBool] at taken
  | ok answer =>
    obtain ⟨last, expires, inTime⟩ := validate_ok valid
    by_cases signed : call.signed = false
    · simp [valid, signed, Except.isOk, Except.toBool] at taken
    · simp only [valid, if_neg signed, expires] at taken ⊢
      have fresh : (consume rows (digest call.nonce) call.now last call.commit).2 = .ok true := by
        cases answered : (consume rows (digest call.nonce) call.now last call.commit).2 with
        | error failure => simp [answered, Except.mapError, Except.bind, Except.isOk, Except.toBool] at taken
        | ok fresh => cases fresh <;> simp_all [Except.mapError, Except.bind, Except.isOk, Except.toBool]
      obtain ⟨none, row, held, same, ending⟩ := consume_fresh fresh
      exact ⟨⟨last, rfl, inTime⟩, none, row, held, same, congrArg _ ending⟩

theorem accepted_listed (taken : call ∈ accepted policy digest rows calls) :
    call ∈ calls ∧ ∃ last, proofExpiresAt policy call.issuedAt = .ok last ∧ call.now ≤ last := by
  induction calls generalizing rows with
  | nil => cases taken
  | cons head rest ih =>
    simp only [accepted] at taken
    split at taken
    · rename_i takes
      rcases List.mem_cons.mp taken with rfl | later
      · exact ⟨List.mem_cons_self, (accepts_fresh takes).1⟩
      · exact (ih later).imp_left (List.mem_cons_of_mem _)
    · exact (ih taken).imp_left (List.mem_cons_of_mem _)

theorem recorded_keeps_out (recorded : Recorded policy digest rows first)
    (lasts : proofExpiresAt policy first.issuedAt = .ok last) (ordered : calls.Pairwise fun early late => early.now ≤ late.now) :
    (∀ second ∈ accepted policy digest rows calls, digest first.nonce = digest second.nonce → last < second.now) ∧
      ((∀ call ∈ calls, call.now ≤ last) → Recorded policy digest (rowsAfter policy digest rows calls) first) := by
  induction calls generalizing rows with
  | nil => exact ⟨nofun, fun _ => recorded⟩
  | cons head rest ih =>
    obtain ⟨before, ordered⟩ := List.pairwise_cons.mp ordered
    refine ⟨?_, fun current => ?_⟩
    · intro second taken same
      by_cases current : head.now ≤ last
      · have later := (ih (verify_keeps recorded lasts current) ordered).1
        simp only [accepted] at taken
        split at taken
        · rename_i takes
          rcases List.mem_cons.mp taken with rfl | listed
          · obtain ⟨row, held, named, expires⟩ := recorded
            have over' := (accepts_fresh takes).2.1 row held (named.trans same)
            rwa [Except.ok.inj (expires.trans lasts)] at over'
          · exact later second listed same
        · exact later second taken same
      · have past : last < head.now := (UtcMillis.not_le_iff ..).mp current
        rcases List.mem_cons.mp (accepted_listed taken).1 with rfl | listed
        · exact past
        · exact Nat.lt_of_lt_of_le past (before second listed)
    · exact (ih (verify_keeps recorded lasts (current head List.mem_cons_self)) ordered).2
        fun call listed => current call (List.mem_cons_of_mem _ listed)

theorem same_nonce_later (ordered : calls.Pairwise fun early late => early.now ≤ late.now) :
    (accepted policy digest rows calls).Pairwise fun first second =>
      first.nonce = second.nonce → ∃ last, proofExpiresAt policy first.issuedAt = .ok last ∧ last < second.now := by
  induction calls generalizing rows with
  | nil => exact .nil
  | cons head rest ih =>
    have ordered := (List.pairwise_cons.mp ordered).2
    simp only [accepted]
    split
    · rename_i takes
      obtain ⟨⟨last, lasts, _⟩, _, recorded⟩ := accepts_fresh takes
      refine List.pairwise_cons.mpr ⟨fun second taken same => ⟨last, lasts, ?_⟩, ih ordered⟩
      exact (recorded_keeps_out recorded lasts ordered).1 second taken (congrArg digest same)
    · exact ih ordered

theorem accepted_recorded (ordered : calls.Pairwise fun early late => early.now ≤ late.now) (taken : call ∈ accepted policy digest rows calls)
    (past : ∀ earlier ∈ calls, earlier.now ≤ now) (valid : validateProofTime policy call.issuedAt now = .ok ()) :
    Recorded policy digest (rowsAfter policy digest rows calls) call := by
  obtain ⟨last, lasts, current⟩ := validate_ok valid
  induction calls generalizing rows with
  | nil => cases taken
  | cons head rest ih =>
    have sorted := (List.pairwise_cons.mp ordered).2
    have before := fun earlier listed => past earlier (List.mem_cons_of_mem head listed)
    simp only [accepted] at taken
    split at taken
    · rename_i takes
      rcases List.mem_cons.mp taken with rfl | later
      · exact (recorded_keeps_out (accepts_fresh takes).2.2 lasts sorted).2 fun other listed =>
          Nat.le_trans (before other listed) current
      · exact ih sorted later before
    · exact ih sorted taken before

-- A nonce is taken again once its last proof has run out, so no proof is accepted twice.
theorem proofs_are_accepted_once (policy : ProofPolicy) (digest : Nonce → Digest) (rows : List (NonceRow Digest))
    (calls : List (ProofCall Nonce)) (ordered : calls.Pairwise fun early late => early.now ≤ late.now) :
    ((accepted policy digest rows calls).Pairwise fun first second =>
      ¬ (first.nonce = second.nonce ∧ first.issuedAt = second.issuedAt)) ∧
    ((accepted policy digest rows calls).Pairwise fun first second =>
      first.nonce = second.nonce → ∃ last, proofExpiresAt policy first.issuedAt = .ok last ∧ last < second.now) ∧
    ∀ before after now, calls = before ++ after → (∀ earlier ∈ before, earlier.now ≤ now) →
      ∀ call ∈ accepted policy digest rows before, validateProofTime policy call.issuedAt now = .ok () →
        Recorded policy digest (rowsAfter policy digest rows before) call := by
  refine ⟨?_, same_nonce_later ordered, ?_⟩
  · refine (same_nonce_later ordered).imp_of_mem ?_
    rintro first second _ taken later ⟨sameNonce, sameTime⟩
    obtain ⟨last, lasts, past⟩ := later sameNonce
    obtain ⟨_, expires, inTime⟩ := (accepted_listed taken).2
    rw [← sameTime, lasts] at expires
    cases expires
    exact Nat.not_lt.mpr inTime past
  · rintro before after now rfl past call taken valid
    exact accepted_recorded (List.pairwise_append.mp ordered).1 taken past valid

def shortProofs : ProofPolicy := ⟨100, 10⟩

def proofAt (issuedAt : UtcMillis) : ProofCall Nat := ⟨issuedAt, 7, issuedAt, true, .answered⟩

theorem replay_finds_its_record : Recorded shortProofs id (rowsAfter shortProofs id [] [proofAt 1000]) (proofAt 1000) :=
  (proofs_are_accepted_once shortProofs id [] [proofAt 1000] (List.pairwise_singleton ..)).2.2 [proofAt 1000] [] 1110 rfl
    (by decide) (proofAt 1000) List.mem_cons_self rfl

theorem old_nonce_is_taken_again : accepted shortProofs id [] [proofAt 1000, proofAt 1000, proofAt 1111] =
    [proofAt 1000, proofAt 1111] := rfl

end AgentRoom.DeviceProofs
