import Mathlib.Tactic.Common

namespace AgentRoom.Library

variable {ε σ α β ι : Type}

-- A method on a mutable receiver that may fail. A failing call keeps whatever it
-- had already written, so leaving the receiver alone is a property, not a given.
abbrev Method (ε σ α : Type) := EStateM ε σ α

def lift (result : Except ε α) : Method ε σ α := fun state =>
  match result with
  | .ok value => .ok value state
  | .error failure => .error failure state

@[simp] theorem lift_ok (value : α) : (lift (.ok value) : Method ε σ α) = pure value := rfl

@[simp] theorem lift_error (failure : ε) : (lift (.error failure) : Method ε σ α) = throw failure := rfl

def finalState : EStateM.Result ε σ α → σ
  | .ok _ state => state
  | .error _ state => state

@[simp] theorem final_state_ok (value : α) (state : σ) : finalState (.ok value state : EStateM.Result ε σ α) = state := rfl

@[simp] theorem final_state_error (failure : ε) (state : σ) :
    finalState (.error failure state : EStateM.Result ε σ α) = state := rfl

def after (method : Method ε σ α) (state : σ) : σ := finalState (method.run state)

-- The whole contract of a call: a failure leaves the receiver alone, and a
-- success relates its answer and the receiver it leaves.
def Yields (method : Method ε σ α) (state : σ) (post : α → σ → Prop) : Prop :=
  match method.run state with
  | .ok value next => post value next
  | .error _ next => next = state

variable {method : Method ε σ α} {state : σ} {post : α → σ → Prop} {failed : σ → Prop} {first : Method ε σ β}

variable {failure : ε} {value : α} {next : σ}

theorem yields_mono (implies : ∀ value next, strong value next → weak value next)
    (yields : Yields method state strong) : Yields method state weak := by
  unfold Yields at yields ⊢
  cases run : method.run state with
  | ok value next =>
    rw [run] at yields
    exact implies value next yields
  | error failure next =>
    rw [run] at yields
    exact yields

theorem yields_ok (yields : Yields method state post) (run : method.run state = .ok value next) : post value next := by
  simpa [Yields, run] using yields

theorem yields_error (yields : Yields method state post) (run : method.run state = .error failure next) : next = state := by
  simpa [Yields, run] using yields

theorem yields_pure (holds : post value state) : Yields (pure value : Method ε σ α) state post := holds

theorem yields_throw : Yields (throw failure : Method ε σ α) state post := rfl

theorem yields_get (rest : Yields (body state) state post) : Yields (get >>= body) state post := rest

theorem yields_lift {guard : Except ε β} {post : α → σ → Prop}
    (rest : ∀ value, guard = .ok value → Yields (body value) state post) : Yields (lift guard >>= body) state post := by
  cases run : guard with
  | ok value => exact rest value run
  | error failure => rfl

theorem yields_ite [Decidable condition]
    (whenTrue : condition → Yields yes state post) (whenFalse : ¬ condition → Yields no state post) :
    Yields (if condition then yes else no) state post := by
  by_cases holds : condition
  · simpa only [if_pos holds] using whenTrue holds
  · simpa only [if_neg holds] using whenFalse holds

-- Once the last fallible step is over, writing and answering cannot fail.
theorem yields_commit (state next : σ) (value : α) (post : α → σ → Prop) (holds : post value next) :
    Yields (set next >>= fun _ => pure value : Method ε σ α) state post := holds

theorem yields_modify {middle : β → σ → Prop} {post : Unit → σ → Prop} (begins : Yields first state middle)
    (changed : ∀ value next, middle value next → post () (change next)) :
    Yields (first >>= fun _ => modify change : Method ε σ Unit) state post := by
  unfold Yields at begins ⊢
  simp only [bind, EStateM.bind, EStateM.run] at begins ⊢
  cases run : first state with
  | ok value next =>
    rw [run] at begins
    exact changed value next begins
  | error failure next =>
    rw [run] at begins
    exact begins

-- The weaker contract of a call that writes on its way: what holds of the
-- receiver a failure leaves is stated beside what holds of a success.
def Leaves (method : Method ε σ α) (state : σ) (post : α → σ → Prop) (failed : σ → Prop) : Prop :=
  match method.run state with
  | .ok value next => post value next
  | .error _ next => failed next

theorem leaves_pure (holds : post value state) : Leaves (pure value : Method ε σ α) state post failed := holds

theorem leaves_throw (holds : failed state) : Leaves (throw failure : Method ε σ α) state post failed := holds

theorem leaves_bind (middle : β → σ → Prop) (begins : Leaves first state middle failed)
    (continues : ∀ value next, middle value next → Leaves (rest value) next post failed) :
    Leaves (first >>= rest) state post failed := by
  unfold Leaves at begins
  cases run : first.run state with
  | ok value next =>
    rw [run] at begins
    have later := continues value next begins
    unfold Leaves at later ⊢
    change match (first >>= rest) state with | .ok value next => post value next | .error _ next => failed next
    simp only [bind, EStateM.bind]
    rw [show first state = .ok value next from run]
    exact later
  | error failure next =>
    rw [run] at begins
    rw [Leaves]
    change match (first >>= rest) state with | .ok value next => post value next | .error _ next => failed next
    simp only [bind, EStateM.bind]
    rw [show first state = .error failure next from run]
    exact begins

theorem leaves_map (begins : Leaves first state (fun value => post (change value)) failed) :
    Leaves (change <$> first) state post failed := by
  rw [map_eq_pure_bind]
  exact leaves_bind _ begins fun value next holds => holds

theorem leaves_get (continues : Leaves (rest state) state post failed) : Leaves (get >>= rest) state post failed := continues

theorem leaves_mono
    (implies : ∀ value next, strong value next → weak value next) (impliesFailed : ∀ next, strongFailed next → weakFailed next)
    (leaves : Leaves method state strong strongFailed) : Leaves method state weak weakFailed := by
  unfold Leaves at leaves ⊢
  cases run : method.run state with
  | ok value next =>
    rw [run] at leaves
    exact implies value next leaves
  | error failure next =>
    rw [run] at leaves
    exact impliesFailed next leaves

theorem leaves_ok (state next : σ) (value : α) (post : α → σ → Prop) (failed : σ → Prop)
    (leaves : Leaves method state post failed) (run : method.run state = .ok value next) : post value next := by
  simpa [Leaves, run] using leaves

theorem leaves_error (leaves : Leaves method state post failed) (run : method.run state = .error failure next) : failed next := by
  simpa [Leaves, run] using leaves

-- A run hands every operation the receiver its predecessor left, failed or not.
def runAll (perform : ι → Method ε σ α) (state : σ) (operations : List ι) : σ :=
  operations.foldl (fun current operation => after (perform operation) current) state

variable (perform : ι → Method ε σ α) (invariant : σ → Prop)

@[simp] theorem run_all_nil (state : σ) : runAll perform state [] = state := rfl

@[simp] theorem run_all_cons (state : σ) (operation : ι) (rest : List ι) :
    runAll perform state (operation :: rest) = runAll perform (after (perform operation) state) rest := rfl

theorem run_all_append {perform : ι → Method ε σ α} {first second : List ι} :
    runAll perform state (first ++ second) = runAll perform (runAll perform state first) second := by
  simp [runAll, List.foldl_append]

theorem after_of_yields {kept : σ → Prop} (yields : Yields method state post) (unchanged : kept state)
    (changed : ∀ value next, post value next → kept next) : kept (after method state) := by
  unfold Yields at yields
  rw [after]
  cases run : method.run state with
  | ok value next =>
    rw [run] at yields
    exact changed value next yields
  | error failure next =>
    rw [run] at yields
    exact yields ▸ unchanged

theorem run_all_invariant (step : ∀ state operation, invariant state → invariant (after (perform operation) state))
    (operations : List ι) (state : σ) (initial : invariant state) : invariant (runAll perform state operations) := by
  induction operations generalizing state with
  | nil => exact initial
  | cons operation rest ih => exact ih _ (step state operation initial)

-- The run rule for a reflexive and transitive relation between two states of a run.
theorem run_all_related (related : σ → σ → Prop) (refl : ∀ state, related state state)
    (trans : ∀ first second third, related first second → related second third → related first third)
    (keeps : ∀ state operation, invariant state → invariant (after (perform operation) state))
    (step : ∀ state operation, invariant state → related state (after (perform operation) state)) (operations : List ι)
    (state : σ) (initial : invariant state) : related state (runAll perform state operations) := by
  induction operations generalizing state with
  | nil => exact refl state
  | cons operation rest ih =>
    exact trans _ _ _ (step state operation initial) (ih _ (keeps state operation initial))

def changes [DecidableEq σ] (perform : ι → Method ε σ α) (state : σ) : List ι → Nat
  | [] => 0
  | operation :: rest =>
    (if after (perform operation) state = state then 0 else 1) + changes perform (after (perform operation) state) rest

theorem counter_of_changes [DecidableEq σ] (counter : σ → Nat)
    (keeps : ∀ state operation, invariant state → invariant (after (perform operation) state))
    (step : ∀ state operation, invariant state →
      after (perform operation) state = state ∨ counter (after (perform operation) state) = counter state + 1)
    (operations : List ι) (state : σ) (initial : invariant state) :
    counter (runAll perform state operations) = counter state + changes perform state operations := by
  induction operations generalizing state with
  | nil => rfl
  | cons operation rest ih =>
    have later := ih (after (perform operation) state) (keeps state operation initial)
    simp only [run_all_cons, changes, later]
    by_cases same : after (perform operation) state = state
    · simp [same]
    · have raised := (step state operation initial).resolve_left same
      simp only [if_neg same, raised]
      omega

end AgentRoom.Library
