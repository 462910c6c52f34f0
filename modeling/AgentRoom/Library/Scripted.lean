import AgentRoom.Library.Calls

namespace AgentRoom.Library

variable {σ μ Op Outcome α β ε : Type} {Answer : Op → Type}

-- A world whose answer to a call is settled by what happens to it, and which
-- is all that is left when the caller is cut off.
structure Machine (σ Op : Type) (Answer : Op → Type) (Outcome : Type) where
  perform : σ → (op : Op) → Outcome → Option (Answer op × σ)

section

variable (machine : Machine σ Op Answer Outcome) (allowed : σ → Op → Outcome → Prop)

-- The calls go as the outcomes say, one after the other, and the rest of the
-- program is what was not reached.
def Drives : Program Op Answer α → σ → List Outcome → Program Op Answer α → σ → Prop
  | program, world, [], rest, final => program = rest ∧ world = final
  | .done _, _, _ :: _, _, _ => False
  | .call op next, world, outcome :: later, rest, final => allowed world op outcome ∧
      ∃ answer after, machine.perform world op outcome = some (answer, after) ∧ Drives (next answer) after later rest final

theorem drives_nil (program rest : Program Op Answer α) (world final : σ) :
    Drives machine allowed program world [] rest final ↔ program = rest ∧ world = final := by
  cases program <;> rfl

def play [∀ world op outcome, Decidable (allowed world op outcome)] : Program Op Answer α → σ → List Outcome → Option σ
  | _, world, [] => some world
  | .done _, _, _ :: _ => none
  | .call op next, world, outcome :: later =>
    if allowed world op outcome then
      (machine.perform world op outcome).bind fun ended => play (next ended.1) ended.2 later
    else none

theorem play_drives [∀ world op outcome, Decidable (allowed world op outcome)] (program : Program Op Answer α) (world final : σ)
    (outcomes : List Outcome) (played : play machine allowed program world outcomes = some final) :
    ∃ rest, Drives machine allowed program world outcomes rest final := by
  induction outcomes generalizing program world with
  | nil =>
    refine ⟨program, (drives_nil ..).mpr ⟨rfl, ?_⟩⟩
    cases program <;> exact Option.some.inj played
  | cons outcome later ih =>
    cases program with
    | done value => cases played
    | call op next =>
      by_cases may : allowed world op outcome
      · simp only [play, may, if_true] at played
        obtain ⟨ended, performed, onward⟩ := Option.bind_eq_some_iff.mp played
        obtain ⟨rest, driven⟩ := ih (next ended.1) ended.2 onward
        exact ⟨rest, may, ended.1, ended.2, performed, driven⟩
      · simp only [play, may, if_false, reduceCtorEq] at played

variable (invariant : σ → Prop)

-- The invariant holds whenever the program is cut off, the postcondition when it ends.
def Keeps (post : α → σ → Prop) : Program Op Answer α → σ → Prop
  | .done value, world => invariant world ∧ post value world
  | .call op next, world => invariant world ∧ ∀ outcome answer after, allowed world op outcome →
      machine.perform world op outcome = some (answer, after) → Keeps post (next answer) after

variable {machine allowed invariant}

theorem keeps_now (kept : Keeps machine allowed invariant post program world) : invariant world := by
  cases program with
  | done value => exact kept.1
  | call op next => exact kept.1

theorem drives_kept (post : α → σ → Prop) (program rest : Program Op Answer α) (world final : σ) (outcomes : List Outcome)
    (kept : Keeps machine allowed invariant post program world) (driven : Drives machine allowed program world outcomes rest final) :
    Keeps machine allowed invariant post rest final := by
  induction outcomes generalizing program world with
  | nil =>
    obtain ⟨same, here⟩ := (drives_nil ..).mp driven
    exact same ▸ here ▸ kept
  | cons outcome later ih =>
    cases program with
    | done value => exact driven.elim
    | call op next =>
      obtain ⟨may, answer, after, performed, onward⟩ := driven
      exact ih (next answer) after (kept.2 outcome answer after may performed) onward

theorem drives_mono (weaker : σ → Op → Outcome → Prop) (program rest : Program Op Answer α) (world final : σ)
    (outcomes : List Outcome) (implies : ∀ world op outcome, allowed world op outcome → weaker world op outcome)
    (driven : Drives machine allowed program world outcomes rest final) : Drives machine weaker program world outcomes rest final := by
  induction outcomes generalizing program world with
  | nil => exact (drives_nil ..).mpr ((drives_nil ..).mp driven)
  | cons outcome later ih =>
    cases program with
    | done value => exact driven.elim
    | call op next =>
      obtain ⟨may, answer, after, performed, onward⟩ := driven
      exact ⟨implies world op outcome may, answer, after, performed, ih (next answer) after onward⟩

theorem keeps_mono (post weaker : α → σ → Prop) (program : Program Op Answer α) (world : σ)
    (kept : Keeps machine allowed invariant post program world)
    (implies : ∀ value final, invariant final → post value final → weaker value final) :
    Keeps machine allowed invariant weaker program world := by
  induction program generalizing world with
  | done value => exact ⟨kept.1, implies value world kept.1 kept.2⟩
  | call op next ih =>
    exact ⟨kept.1, fun outcome answer after may performed => ih answer after (kept.2 outcome answer after may performed)⟩

theorem keeps_bind (middle : α → σ → Prop) (post : β → σ → Prop)
    (world : σ) (first : Keeps machine allowed invariant middle program world)
    (rest : ∀ value final, invariant final → middle value final → Keeps machine allowed invariant post (next value) final) :
    Keeps machine allowed invariant post (program.bind next) world := by
  induction program generalizing world with
  | done value => exact rest value world first.1 first.2
  | call op continuing ih =>
    exact ⟨first.1, fun outcome answer after may performed => ih answer after (first.2 outcome answer after may performed)⟩

end

-- A caller with a memory of its own, which a failure leaves as it is.
abbrev Routine (ε μ Op : Type) (Answer : Op → Type) (α : Type) := ExceptT ε (StateT μ (Program Op Answer)) α

namespace Routine

def ask (op : Op) (read : Answer op → Except ε α) : Routine ε μ Op Answer α :=
  ExceptT.mk fun memory => .call op fun answer => .done (read answer, memory)

def result (known : Except ε α) : Routine ε μ Op Answer α := ExceptT.mk fun memory => .done (known, memory)

def current : Routine ε μ Op Answer μ := ExceptT.mk fun memory => .done (.ok memory, memory)

def remember (change : μ → μ) : Routine ε μ Op Answer Unit := ExceptT.mk fun memory => .done (.ok (), change memory)

-- The failures a handler knows are handed to it, any other passes through.
def attempt {δ : Type} (caught : ε → Option δ) (routine : Routine ε μ Op Answer α) : Routine ε μ Op Answer (Except δ α) :=
  ExceptT.mk fun memory => (routine.run memory).bind fun ended =>
    match ended.1 with
    | .ok value => .done (.ok (.ok value), ended.2)
    | .error failure =>
      match caught failure with
      | some known => .done (.ok (.error known), ended.2)
      | none => .done (.error failure, ended.2)

section

variable {machine : Machine σ Op Answer Outcome} {allowed : σ → Op → Outcome → Prop} {invariant : σ → Prop}

def Holds (machine : Machine σ Op Answer Outcome) (allowed : σ → Op → Outcome → Prop) (invariant : σ → Prop)
    (post : Except ε α → μ → σ → Prop) (routine : Routine ε μ Op Answer α) (memory : μ) (world : σ) : Prop :=
  Keeps machine allowed invariant (fun ended final => post ended.1 ended.2 final) (routine.run memory) world

def Onward (post : Except ε β → μ → σ → Prop) (middle : α → μ → σ → Prop) : Except ε α → μ → σ → Prop
  | .ok value, memory, world => middle value memory world
  | .error failure, memory, world => post (.error failure) memory world

variable {memory : μ} {world : σ} {post : Except ε α → μ → σ → Prop}

theorem holds_bind (middle : α → μ → σ → Prop) {post : Except ε β → μ → σ → Prop}
    (first : Holds machine allowed invariant (Onward post middle) routine memory world)
    (rest : ∀ value memory world, invariant world → middle value memory world →
      Holds machine allowed invariant post (next value) memory world) :
    Holds machine allowed invariant post (routine >>= next) memory world := by
  refine keeps_bind _ _ _ first ?_
  rintro ⟨ended, memory⟩ final holds reached
  cases ended with
  | ok value => exact rest value memory final holds reached
  | error failure => exact ⟨holds, reached⟩

theorem holds_mono (held : Holds machine allowed invariant post routine memory world)
    (implies : ∀ ended memory final, invariant final → post ended memory final → weaker ended memory final) :
    Holds machine allowed invariant weaker routine memory world :=
  keeps_mono _ _ _ _ held fun ended final holds reached => implies ended.1 ended.2 final holds reached

theorem holds_result (holds : invariant world) (reached : post known memory world) :
    Holds machine allowed invariant post (result known : Routine ε μ Op Answer α) memory world := ⟨holds, reached⟩

theorem holds_pure (holds : invariant world) (reached : post (.ok value) memory world) :
    Holds machine allowed invariant post (pure value : Routine ε μ Op Answer α) memory world := ⟨holds, reached⟩

theorem holds_ask {read : Answer op → Except ε α} (holds : invariant world)
    (answered : ∀ outcome answer after, allowed world op outcome → machine.perform world op outcome = some (answer, after) →
      invariant after ∧ post (read answer) memory after) :
    Holds machine allowed invariant post (ask op read : Routine ε μ Op Answer α) memory world :=
  ⟨holds, fun outcome answer after may performed => answered outcome answer after may performed⟩

def Handled {δ : Type} (post : Except ε (Except δ α) → μ → σ → Prop) (caught : ε → Option δ) : Except ε α → μ → σ → Prop
  | .ok value, memory, world => post (.ok (.ok value)) memory world
  | .error failure, memory, world =>
    post ((caught failure).elim (.error failure) fun known => .ok (.error known)) memory world

theorem holds_attempt {post : Except ε (Except δ α) → μ → σ → Prop}
    (held : Holds machine allowed invariant (Handled post caught) routine memory world) :
    Holds machine allowed invariant post (attempt caught routine) memory world := by
  refine keeps_bind _ _ _ held ?_
  rintro ⟨ended, memory⟩ final holds reached
  cases ended with
  | ok value => exact ⟨holds, reached⟩
  | error failure =>
    cases known : caught failure with
    | none =>
      simp only [Handled, known, Option.elim_none] at reached ⊢
      exact ⟨holds, reached⟩
    | some handed =>
      simp only [Handled, known, Option.elim_some] at reached ⊢
      exact ⟨holds, reached⟩

end

end Routine

variable {σ μ Op Outcome α β ε : Type} {Answer : Op → Type}

section

variable (machine : Machine σ Op Answer Outcome) (allowed : σ → Op → Outcome → Prop) (goal : σ → Prop)

-- Whatever the calls are answered, the goal is reached, or the program ends as
-- promised; and each call on the way has an answer.
inductive Comes (post : α → σ → Prop) : Program Op Answer α → σ → Prop where
  | reached (program : Program Op Answer α) (world : σ) (now : goal world) : Comes post program world
  | done (value : α) (world : σ) (holds : post value world) : Comes post (.done value) world
  | call (op : Op) (next : Answer op → Program Op Answer α) (world : σ)
      (possible : ∃ outcome answer after, allowed world op outcome ∧ machine.perform world op outcome = some (answer, after))
      (onward : ∀ outcome answer after, allowed world op outcome → machine.perform world op outcome = some (answer, after) →
        Comes post (next answer) after) : Comes post (.call op next) world

abbrev Inevitable (program : Program Op Answer α) (world : σ) : Prop := Comes machine allowed goal (fun _ _ => False) program world

variable {machine allowed goal}

theorem comes_bind (first : Comes machine allowed goal middle program world)
    (rest : ∀ value final, middle value final → Comes machine allowed goal post (next value) final) :
    Comes machine allowed goal post (program.bind next) world := by
  induction first with
  | reached program world now => exact .reached _ _ now
  | done value world holds => exact rest value world holds
  | call op continuing world possible onward ih => exact .call _ _ _ possible ih

-- A program that keeps away from the goal does not come to it.
theorem never_inevitable (post : α → σ → Prop) (kept : Keeps machine allowed (fun world => ¬ goal world) post program world) :
    ¬ Inevitable machine allowed goal program world := by
  intro comes
  induction comes with
  | reached program world now => exact keeps_now kept now
  | done value world holds => exact holds
  | call op next world possible onward ih =>
    obtain ⟨outcome, answer, after, may, performed⟩ := possible
    exact ih outcome answer after may performed (kept.2 outcome answer after may performed)

end

namespace Routine

section

variable {machine : Machine σ Op Answer Outcome} {allowed : σ → Op → Outcome → Prop} {goal : σ → Prop}

def Passes (machine : Machine σ Op Answer Outcome) (allowed : σ → Op → Outcome → Prop) (goal : σ → Prop)
    (post : α → μ → σ → Prop) (routine : Routine ε μ Op Answer α) (memory : μ) (world : σ) : Prop :=
  Comes machine allowed goal (fun ended final => ∃ value, ended.1 = .ok value ∧ post value ended.2 final) (routine.run memory) world

theorem passes_bind (middle : α → μ → σ → Prop) {post : β → μ → σ → Prop}
    (first : Passes machine allowed goal middle routine memory world)
    (rest : ∀ value memory world, middle value memory world → Passes machine allowed goal post (next value) memory world) :
    Passes machine allowed goal post (routine >>= next) memory world := by
  refine comes_bind first ?_
  rintro ⟨ended, memory⟩ final ⟨value, rfl, reached⟩
  exact rest value memory final reached

theorem passes_ask {read : Answer op → Except ε α}
    (possible : ∃ outcome answer after, allowed world op outcome ∧ machine.perform world op outcome = some (answer, after))
    (answered : ∀ outcome answer after, allowed world op outcome → machine.perform world op outcome = some (answer, after) →
      goal after ∨ ∃ value, read answer = .ok value ∧ post value memory after) :
    Passes machine allowed goal post (ask op read : Routine ε μ Op Answer α) memory world := by
  refine .call _ _ _ possible ?_
  intro outcome answer after may performed
  rcases answered outcome answer after may performed with now | ⟨value, reads, reached⟩
  · exact .reached _ _ now
  · exact .done _ _ ⟨value, reads, reached⟩

theorem passes_asked {read : Answer op → Except ε α}
    (possible : ∃ outcome answer after, allowed world op outcome ∧ machine.perform world op outcome = some (answer, after))
    (led : ∀ outcome answer after, allowed world op outcome → machine.perform world op outcome = some (answer, after) →
      ∃ value, read answer = .ok value ∧ Passes machine allowed goal post (next value) memory after) :
    Passes machine allowed goal post (ask op read >>= next : Routine ε μ Op Answer β) memory world :=
  passes_bind (fun value memory world => Passes machine allowed goal post (next value) memory world)
    (passes_ask possible fun outcome answer after may performed => .inr (led outcome answer after may performed))
    fun _ _ _ passes => passes

theorem passes_pure (reached : post value memory world) :
    Passes machine allowed goal post (pure value : Routine ε μ Op Answer α) memory world := .done _ _ ⟨value, rfl, reached⟩

theorem passes_attempt {caught : ε → Option δ} {post : Except δ α → μ → σ → Prop} (led : Passes machine allowed goal (fun value => post (.ok value)) routine memory world) :
    Passes machine allowed goal post (attempt caught routine) memory world := by
  refine comes_bind led ?_
  rintro ⟨ended, memory⟩ final ⟨value, rfl, reached⟩
  exact .done _ _ ⟨.ok value, rfl, reached⟩

end

end Routine

end AgentRoom.Library
