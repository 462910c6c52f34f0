import AgentRoom.Library.Fallible

namespace AgentRoom.Library

variable {ε σ α η : Type}

-- A run takes the inputs one after the other, each by a step that relates the
-- state it finds to the one it leaves.
def Runs (step : σ → α → σ → Prop) : σ → List α → σ → Prop
  | start, [], final => start = final
  | start, input :: rest, final => ∃ next, step start input next ∧ Runs step next rest final

section

variable {step : σ → α → σ → Prop}

theorem runs_append (start final : σ) (first second : List α) : Runs step start (first ++ second) final ↔
      ∃ middle, Runs step start first middle ∧ Runs step middle second final := by
  induction first generalizing start with
  | nil => simp [Runs]
  | cons input rest ih =>
    constructor
    · rintro ⟨next, stepped, later⟩
      obtain ⟨middle, early, late⟩ := (ih next).mp later
      exact ⟨middle, ⟨next, stepped, early⟩, late⟩
    · rintro ⟨middle, ⟨next, stepped, early⟩, late⟩
      exact ⟨next, stepped, (ih next).mpr ⟨middle, early, late⟩⟩

theorem runs_invariant (invariant : σ → Prop)
    (keeps : ∀ state input next, invariant state → step state input next → invariant next)
    (initial : invariant start) (run : Runs step start inputs final) : invariant final := by
  induction inputs generalizing start with
  | nil => exact run ▸ initial
  | cons input rest ih =>
    obtain ⟨next, stepped, later⟩ := run
    exact ih (keeps start input next initial stepped) later

theorem runs_mono (weaker : σ → α → σ → Prop) (implies : ∀ state input next, step state input next → weaker state input next)
    (start final : σ) (inputs : List α) (run : Runs step start inputs final) : Runs weaker start inputs final := by
  induction inputs generalizing start with
  | nil => exact run
  | cons input rest ih =>
    obtain ⟨next, stepped, later⟩ := run
    exact ⟨next, implies start input next stepped, ih next later⟩

end

def Guarded (meets : σ → α → Prop) (step : σ → α → σ → Prop) (state : σ) (input : α) (next : σ) : Prop :=
  meets state input ∧ step state input next

theorem guarded_run (meets : σ → α → Prop) (step : σ → α → σ → Prop) (start final : σ) (inputs : List α)
    (run : Runs (Guarded meets step) start inputs final) : Runs step start inputs final :=
  runs_mono step (fun _ _ _ guarded => guarded.2) start final inputs run

-- The condition may be shown step by step along the run.
theorem guard_run (meets : σ → α → Prop) (step : σ → α → σ → Prop) (start final : σ) (inputs : List α)
    (holds : ∀ earlier input later state, inputs = earlier ++ input :: later → Runs step start earlier state → meets state input)
    (run : Runs step start inputs final) : Runs (Guarded meets step) start inputs final := by
  induction inputs generalizing start with
  | nil => exact run
  | cons input rest ih =>
    obtain ⟨next, stepped, later⟩ := run
    refine ⟨next, ⟨holds [] input rest start rfl rfl, stepped⟩, ih next ?_ later⟩
    intro earlier other after state split before
    exact holds (input :: earlier) other after state (by rw [split]; rfl) ⟨next, stepped, before⟩

theorem foldl_runs (step : σ → α → σ) (start final : σ) (inputs : List α) :
    Runs (fun state input next => next = step state input) start inputs final ↔ final = inputs.foldl step start := by
  induction inputs generalizing start with
  | nil => exact eq_comm
  | cons input rest ih => simp only [Runs, exists_eq_left, ih, List.foldl_cons]

variable (step : σ → α → Except ε σ)

def Fallible (state : σ) (input : α) (next : σ) : Prop := step state input = .ok next

-- A loop that ends well is a run of its steps.
theorem fold_runs (start final : σ) (inputs : List α) :
    List.foldlM step start inputs = .ok final ↔ Runs (Fallible step) start inputs final := by
  induction inputs generalizing start with
  | nil => exact fold_ok_nil step start final
  | cons input rest ih => simp only [fold_ok_cons, Runs, Fallible, ih]

variable (note : σ → α → σ → η → η)

-- A history is written beside the state and never read by the step.
def observe (state : σ × η) (input : α) : Except ε (σ × η) := do
  let next ← step state.1 input
  return (next, note state.1 input next state.2)

theorem observe_ok (state final : σ × η) (input : α) : observe step note state input = .ok final ↔
      step state.1 input = .ok final.1 ∧ final.2 = note state.1 input final.1 state.2 := by
  rw [observe, bind_ok]
  constructor
  · rintro ⟨next, stepped, built⟩
    cases built
    exact ⟨stepped, rfl⟩
  · rintro ⟨stepped, noted⟩
    exact ⟨final.1, stepped, by rw [← noted]; rfl⟩

theorem observed_run (start final : σ) (history : η) (inputs : List α) (run : List.foldlM step start inputs = .ok final) :
    ∃ later, List.foldlM (observe step note) (start, history) inputs = .ok (final, later) := by
  induction inputs generalizing start history with
  | nil =>
    rw [fold_ok_nil] at run
    exact ⟨history, by rw [fold_ok_nil, run]⟩
  | cons input rest ih =>
    obtain ⟨next, stepped, later⟩ := (fold_ok_cons ..).mp run
    obtain ⟨noted, observed⟩ := ih next (note start input next history) later
    exact ⟨noted, (fold_ok_cons ..).mpr ⟨_, (observe_ok ..).mpr ⟨stepped, rfl⟩, observed⟩⟩

theorem forget_observed (start final : σ × η)
    (inputs : List α) (run : List.foldlM (observe step note) start inputs = .ok final) :
    List.foldlM step start.1 inputs = .ok final.1 := by
  induction inputs generalizing start with
  | nil =>
    rw [fold_ok_nil] at run
    exact (fold_ok_nil ..).mpr (congrArg Prod.fst run)
  | cons input rest ih =>
    obtain ⟨next, stepped, later⟩ := (fold_ok_cons ..).mp run
    exact (fold_ok_cons ..).mpr ⟨next.1, ((observe_ok ..).mp stepped).1, ih next later⟩

end AgentRoom.Library
