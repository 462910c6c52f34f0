import AgentRoom.Library.Calls

namespace AgentRoom.Library

variable {σ κ Op α β ε : Type} {Answer : Op → Type} (environment : Environment σ Op Answer)

-- A program that runs from beginning to end with nobody else in between.
def Alone : Program Op Answer α → σ → α → σ → Prop
  | .done value, world, result, final => value = result ∧ world = final
  | .call op next, world, result, final =>
    ∃ answer middle, environment.answers world op answer middle ∧ Alone (next answer) middle result final

theorem alone_bind (first : Program Op Answer α) (world final : σ) (result : β) :
    Alone environment (first.bind rest) world result final ↔
      ∃ value middle, Alone environment first world value middle ∧ Alone environment (rest value) middle result final := by
  induction first generalizing world with
  | done value =>
    constructor
    · intro run
      exact ⟨value, world, ⟨rfl, rfl⟩, run⟩
    · rintro ⟨_, _, ⟨rfl, rfl⟩, run⟩
      exact run
  | call op next ih =>
    constructor
    · rintro ⟨answer, between, answers, run⟩
      obtain ⟨value, middle, early, late⟩ := (ih answer between).mp run
      exact ⟨value, middle, ⟨answer, between, answers, early⟩, late⟩
    · rintro ⟨value, middle, ⟨answer, between, answers, early⟩, late⟩
      exact ⟨answer, between, answers, (ih answer between).mpr ⟨value, middle, early, late⟩⟩

-- The same where a failure ends the program: a success has passed every step.
theorem alone_then (first : ExceptT ε (Program Op Answer) α) (rest : α → ExceptT ε (Program Op Answer) β) (world final : σ) (result : β) :
    Alone environment (first >>= rest).run world (.ok result) final ↔
      ∃ value middle, Alone environment first.run world (.ok value) middle ∧
        Alone environment (rest value).run middle (.ok result) final := by
  refine (alone_bind environment first.run world final (Except.ok result)).trans ?_
  constructor
  · rintro ⟨outcome, middle, early, late⟩
    cases outcome with
    | ok value => exact ⟨value, middle, early, late⟩
    | error failure => cases late.1
  · rintro ⟨value, middle, early, late⟩
    exact ⟨.ok value, middle, early, late⟩

theorem alone_consult (op : Op) (read : Answer op → Except ε α) (world final : σ) (value : α) :
    Alone environment (consult op read : ExceptT ε (Program Op Answer) α).run world (.ok value) final ↔
      ∃ answer, environment.answers world op answer final ∧ read answer = .ok value := by
  constructor
  · rintro ⟨answer, middle, answers, reads, rfl⟩
    exact ⟨answer, answers, reads⟩
  · rintro ⟨answer, answers, reads⟩
    exact ⟨answer, final, answers, reads, rfl⟩

theorem alone_fail_as (change : δ → ε) (program : ExceptT δ (Program Op Answer) α) (world final : σ) (value : α) :
    Alone environment (failAs change program).run world (.ok value) final ↔ Alone environment program.run world (.ok value) final := by
  refine (alone_bind environment program.run world final (Except.ok value)).trans ?_
  constructor
  · rintro ⟨outcome, middle, early, same, rfl⟩
    cases outcome with
    | ok found =>
      cases same
      exact early
    | error failure => cases same
  · intro run
    exact ⟨.ok value, final, run, rfl, rfl⟩

theorem alone_settled (outcome : Except ε α) (world final : σ) (value : α) :
    Alone environment (settled outcome : ExceptT ε (Program Op Answer) α).run world (.ok value) final ↔
      outcome = .ok value ∧ world = final := Iff.rfl

theorem alone_checked (run : Alone environment (settled outcome >>= rest).run world (.ok result) final) :
    ∃ value, outcome = .ok value ∧ Alone environment (rest value).run world (.ok result) final := by
  obtain ⟨value, middle, settles, run⟩ := (alone_then ..).mp run
  obtain ⟨ok, rfl⟩ := (alone_settled ..).mp settles
  exact ⟨value, ok, run⟩

theorem alone_pure (given value : α) (world final : σ) :
    Alone environment (pure given : ExceptT ε (Program Op Answer) α).run world (.ok value) final ↔ given = value ∧ world = final := by
  constructor
  · rintro ⟨same, rfl⟩
    exact ⟨Except.ok.inj same, rfl⟩
  · rintro ⟨rfl, rfl⟩
    exact ⟨rfl, rfl⟩

-- A program played out by one who always has an answer.
def playOut (answer : σ → (op : Op) → Answer op × σ) : Program Op Answer α → σ → α × σ
  | .done value, world => (value, world)
  | .call op next, world => playOut answer (next (answer world op).1) (answer world op).2

variable (answer : σ → (op : Op) → Answer op × σ)

theorem alone_play_out
    (answers : ∀ world op, environment.answers world op (answer world op).1 (answer world op).2) (program : Program Op Answer α)
    (world : σ) : Alone environment program world (playOut answer program world).1 (playOut answer program world).2 := by
  induction program generalizing world with
  | done value => exact ⟨rfl, rfl⟩
  | call op next ih => exact ⟨_, _, answers world op, ih _ _⟩

def rehearse (answer : σ → (op : Op) → Answer op × σ) (program : κ → Program Op Answer α) (scene : Scene σ κ Op Answer α) :
    Turn κ → Scene σ κ Op Answer α
  | .join request => scene.join program request
  | .proceed index =>
    match scene.callers[index]? with
    | none => scene
    | some caller =>
      match caller.rest with
      | .done value => scene.finish index caller value
      | .call op next =>
        scene.goOn index caller op (answer scene.world op).1 (next (answer scene.world op).1) (answer scene.world op).2
  | .cut index => scene.leave index
  | .outside => scene

section

variable (answers : ∀ world op, environment.answers world op (answer world op).1 (answer world op).2)
include answers

variable {program : κ → Program Op Answer α}

theorem rehearse_turns (scene : Scene σ κ Op Answer α) (turn : Turn κ) :
    rehearse answer program scene turn = scene ∨ Turns environment program scene turn (rehearse answer program scene turn) := by
  cases turn with
  | join request => exact .inr rfl
  | proceed index =>
    cases found : scene.callers[index]? with
    | none =>
      left
      simp [rehearse, found]
    | some caller =>
      right
      cases left : caller.rest with
      | done value =>
        simp only [rehearse, found, left]
        exact done_turn program found left
      | call op next =>
        simp only [rehearse, found, left]
        exact call_turn program scene index caller op _ next _ found left (answers scene.world op)
  | cut index => exact .inr rfl
  | outside => exact .inl rfl

theorem rehearsed_run (scene : Scene σ κ Op Answer α) (turns : List (Turn κ)) :
    ∃ taken, Runs (Turns environment program) scene taken (turns.foldl (rehearse answer program) scene) := by
  induction turns generalizing scene with
  | nil => exact ⟨[], rfl⟩
  | cons turn rest ih =>
    obtain ⟨taken, run⟩ := ih (rehearse answer program scene turn)
    rcases rehearse_turns environment answer answers scene turn with same | turned
    · rw [same] at run
      exact ⟨taken, by simpa only [List.foldl_cons, same] using run⟩
    · exact ⟨turn :: taken, _, turned, run⟩

theorem rehearsed_guarded (meets : Scene σ κ Op Answer α → Turn κ → Prop) (scene : Scene σ κ Op Answer α) (turns : List (Turn κ))
    (met : ∀ earlier turn later, turns = earlier ++ turn :: later → meets (earlier.foldl (rehearse answer program) scene) turn) :
    ∃ taken, Runs (Guarded meets (Turns environment program)) scene taken (turns.foldl (rehearse answer program) scene) := by
  induction turns generalizing scene with
  | nil => exact ⟨[], rfl⟩
  | cons turn rest ih =>
    obtain ⟨taken, run⟩ := ih (rehearse answer program scene turn) fun earlier other later split =>
      met (turn :: earlier) other later (by rw [split]; rfl)
    rcases rehearse_turns environment answer answers scene turn with same | turned
    · rw [same] at run
      exact ⟨taken, by simpa only [List.foldl_cons, same] using run⟩
    · exact ⟨turn :: taken, _, ⟨met [] turn rest rfl, turned⟩, run⟩

end

def enact (answer : σ → (op : Op) → Answer op × σ) (move : σ → σ) (program : κ → Program Op Answer α) (scene : Scene σ κ Op Answer α) :
    Turn κ → Scene σ κ Op Answer α
  | .outside => { scene with world := move scene.world }
  | turn => rehearse answer program scene turn

theorem enact_turns (move : σ → σ) (answers : ∀ world op, environment.answers world op (answer world op).1 (answer world op).2)
    (moves : ∀ world, environment.moves world (move world)) (program : κ → Program Op Answer α) (scene : Scene σ κ Op Answer α)
    (turn : Turn κ) :
    enact answer move program scene turn = scene ∨ Turns environment program scene turn (enact answer move program scene turn) := by
  cases turn with
  | outside => exact .inr ⟨move scene.world, moves scene.world, rfl⟩
  | join request => exact rehearse_turns environment answer answers scene (.join request)
  | proceed index => exact rehearse_turns environment answer answers scene (.proceed index)
  | cut index => exact rehearse_turns environment answer answers scene (.cut index)

theorem enacted_run {answer : σ → (op : Op) → Answer op × σ}
    (answers : ∀ world op, environment.answers world op (answer world op).1 (answer world op).2)
    (moves : ∀ world, environment.moves world (move world)) (program : κ → Program Op Answer α)
    (scene : Scene σ κ Op Answer α) (turns : List (Turn κ)) :
    ∃ taken, Runs (Turns environment program) scene taken (turns.foldl (enact answer move program) scene) := by
  induction turns generalizing scene with
  | nil => exact ⟨[], rfl⟩
  | cons turn rest ih =>
    obtain ⟨taken, run⟩ := ih (enact answer move program scene turn)
    rcases enact_turns environment answer move answers moves program scene turn with same | turned
    · rw [same] at run
      exact ⟨taken, by simpa only [List.foldl_cons, same] using run⟩
    · exact ⟨turn :: taken, _, turned, run⟩

end AgentRoom.Library
