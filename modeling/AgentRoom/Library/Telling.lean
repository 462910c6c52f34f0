import AgentRoom.Library.Calls

namespace AgentRoom.Library

variable {σ κ Op α β ε δ : Type} {Answer : Op → Type} {environment : Environment σ Op Answer}

-- The program makes only calls it may make, and its success tells something.
def Tells (rely : Rely environment) (may : Op → σ → Prop) (told : α → σ → Prop) (program : ExceptT ε (Program Op Answer) α) (state : σ) : Prop :=
  Safe rely may (fun result now => ∀ value, result = .ok value → told value now) program.run state

variable {rely : Rely environment}

def Rely.Lasting (rely : Rely environment) (holds : σ → Prop) : Prop :=
  ∀ state next, rely.invariant next → rely.later state next → holds state → holds next

theorem tells_then (middle : α → σ → Prop) (first : Tells rely may middle program state)
    (rest : ∀ value now, rely.invariant now → rely.later state now → middle value now → Tells rely may told (next value) now) :
    Tells rely may told (program >>= next) state := by
  refine safe_then middle (safe_mono _ _ _ _ ?_ first) rest
  intro result now _ holds
  cases result with
  | ok value => exact holds value rfl
  | error failed => exact nofun

-- What lasts does not have to be carried over by hand.
theorem tells_holding (lasting : rely.Lasting holds) (before : holds state) (first : Tells rely may middle program state)
    (rest : ∀ value now, holds now → middle value now → Tells rely may told (next value) now) :
    Tells rely may told (program >>= next) state :=
  tells_then middle first fun value now invariant since => rest value now (lasting state now invariant since before)

-- What the first told is not needed.
theorem tells_past (first : Tells rely may (fun _ _ => True) program state)
    (rest : ∀ value now, rely.invariant now → rely.later state now → Tells rely may told (next value) now) :
    Tells rely may told (program >>= next) state :=
  tells_then _ first fun value now invariant since _ => rest value now invariant since

theorem tells_call {read : Answer op → Except ε α}
    (allowed : ∀ now, rely.invariant now → rely.later state now → may op now) (lasting : ∀ value, rely.Lasting (told value))
    (answered : ∀ now answer after value, rely.invariant now → rely.later state now → environment.answers now op answer after →
      rely.invariant after → read answer = .ok value → told value after) :
    Tells rely may told (consult op read) state := by
  refine safe_consult ?_
  intro now invariant since
  refine ⟨allowed now invariant since, ?_⟩
  intro answer after answers kept between reached holds onward value reads
  exact lasting value after reached holds onward (answered now answer after value invariant since answers kept reads)

theorem tells_nothing {read : Answer op → Except ε α} (allowed : ∀ now, rely.invariant now → rely.later state now → may op now) :
    Tells rely may (fun _ _ => True) (consult op read) state :=
  tells_call allowed (fun _ _ _ _ _ _ => trivial) fun _ _ _ _ _ _ _ _ _ => trivial

theorem tells_settled {result : Except ε α}
    (holds : ∀ value now, rely.invariant now → rely.later state now → result = .ok value → told value now) :
    Tells rely may told (settled result) state :=
  safe_settled fun now invariant since value known => holds value now invariant since known

theorem tells_result {result : Except ε α} : Tells rely may (fun _ _ => True) (settled result) state :=
  tells_settled fun _ _ _ _ _ => trivial

theorem tells_pure (holds : ∀ now, rely.invariant now → rely.later state now → told value now) :
    Tells rely may told (pure value : ExceptT ε (Program Op Answer) α) state := by
  intro now invariant since found known
  cases known
  exact holds now invariant since

theorem tells_done : Tells rely may (fun _ _ => True) (pure value : ExceptT ε (Program Op Answer) α) state :=
  tells_pure fun _ _ _ => trivial

theorem tells_weaker
    (implies : ∀ value now, rely.invariant now → told value now → weaker value now) (tells : Tells rely may told program state) :
    Tells rely may weaker program state :=
  safe_mono _ _ _ _ (fun _ now invariant holds value known => implies value now invariant (holds value known)) tells

theorem tells_quiet (tells : Tells rely may told program state) : Tells rely may (fun _ _ => True) program state :=
  tells_weaker (fun _ _ _ _ => trivial) tells

theorem tells_frame (lasting : rely.Lasting holds) (before : holds state) (tells : Tells rely may told program state) :
    Tells rely may (fun value now => told value now ∧ holds now) program state := by
  refine safe_mono _ _ _ _ ?_ (safe_frame _ holds _ state (fun now invariant later => lasting state now invariant later before) tells)
  exact fun _ _ _ ⟨tells, still⟩ value known => ⟨tells value known, still⟩

theorem tells_attempted {program : ExceptT δ (Program Op Answer) α} (tells : Tells rely may told program state) :
    Tells rely may (fun result now => ∀ value, result = .ok value → told value now)
      (attempted program : ExceptT ε (Program Op Answer) (Except δ α)) state := by
  refine safe_attempted (safe_mono _ _ _ _ ?_ tells)
  intro result now _ holds outcome known value same
  cases known
  exact holds value same

section

variable {Few : Type} {Reply : Few → Type} (embed : Few → Op) (back : ∀ op, Answer (embed op) → Reply op)

-- A program that makes some of the calls only, where all of them are made.
def Program.within : Program Few Reply α → Program Op Answer α
  | .done value => .done value
  | .call op next => .call (embed op) fun answer => (next (back op answer)).within

def Environment.within (environment : Environment σ Op Answer) : Environment σ Few Reply where
  answers state op reply next := ∃ answer, back op answer = reply ∧ environment.answers state (embed op) answer next
  moves := environment.moves

def Rely.within (rely : Rely environment) : Rely (environment.within embed back) := { rely with }

variable {embed back}

theorem safe_within {program : Program Few Reply α}
    (safe : Safe (rely.within embed back) (fun op => may (embed op)) post program state) :
    Safe rely may post (program.within embed back) state := by
  induction program generalizing state with
  | done value => exact safe
  | call op continuing ih =>
    intro now invariant later
    obtain ⟨allowed, answered⟩ := safe now invariant later
    exact ⟨allowed, fun answer after answers kept between => ih _ (answered _ after ⟨answer, rfl, answers⟩ kept between)⟩

theorem tells_within {program : ExceptT ε (Program Few Reply) α}
    (tells : Tells (rely.within embed back) (fun op => may (embed op)) told program state) :
    Tells rely may told (ExceptT.mk (program.run.within embed back)) state :=
  safe_within tells

end

variable {σ κ γ Op α β ε δ : Type} {Answer : Op → Type}

-- A memory that a program keeps of its own calls: which call is right after what
-- it remembers, and what an answer adds to it.
structure Watch (γ Op : Type) (Answer : Op → Type) where
  right : γ → Op → Prop
  remember : γ → (op : Op) → Answer op → γ

variable (watch : Watch γ Op Answer)

-- Every call is right, whatever the answers were, and so is the end.
def Watched (post : α → γ → Prop) : Program Op Answer α → γ → Prop
  | .done value, memory => post value memory
  | .call op next, memory => watch.right memory op ∧ ∀ answer, Watched post (next answer) (watch.remember memory op answer)

variable {watch}

theorem watched_mono (post weaker : α → γ → Prop) (program : Program Op Answer α) (memory : γ)
    (implies : ∀ value memory, post value memory → weaker value memory) (watched : Watched watch post program memory) :
    Watched watch weaker program memory := by
  induction program generalizing memory with
  | done value => exact implies value memory watched
  | call op next ih => exact ⟨watched.1, fun answer => ih answer _ (watched.2 answer)⟩

theorem watched_bind (program : Program Op Answer α) (memory : γ) (first : Watched watch middle program memory)
    (rest : ∀ value memory, middle value memory → Watched watch post (next value) memory) :
    Watched watch post (program.bind next) memory := by
  induction program generalizing memory with
  | done value => exact rest value memory first
  | call op continuing ih => exact ⟨first.1, fun answer => ih answer _ (first.2 answer)⟩

-- The same where a failure ends the program, and then nothing is asked of it.
def Recalls (watch : Watch γ Op Answer) (told : α → γ → Prop) (program : ExceptT ε (Program Op Answer) α) (memory : γ) : Prop :=
  Watched watch (fun result now => ∀ value, result = .ok value → told value now) program.run memory

theorem recalls_then (middle : α → γ → Prop) (first : Recalls watch middle program memory)
    (rest : ∀ value memory, middle value memory → Recalls watch told (next value) memory) :
    Recalls watch told (program >>= next) memory := by
  refine watched_bind program.run memory first ?_
  intro result now holds
  cases result with
  | ok value => exact rest value now (holds value rfl)
  | error failed => exact nofun

theorem recalls_consult {op : Op} {read : Answer op → Except ε α} (right : watch.right memory op)
    (answered : ∀ answer value, read answer = .ok value → told value (watch.remember memory op answer)) :
    Recalls watch told (consult op read) memory :=
  ⟨right, fun answer value reads => answered answer value reads⟩

theorem recalls_settled {result : Except ε α} (holds : ∀ value, result = .ok value → told value memory) :
    Recalls watch told (settled result) memory := holds

theorem recalls_pure (holds : told value memory) : Recalls watch told (pure value : ExceptT ε (Program Op Answer) α) memory := by
  intro found known
  cases known
  exact holds

theorem recalls_weaker
    (implies : ∀ value memory, told value memory → weaker value memory) (recalls : Recalls watch told program memory) :
    Recalls watch weaker program memory :=
  watched_mono _ _ program.run memory (fun _ now holds value known => implies value now (holds value known)) recalls

end AgentRoom.Library
