import Mathlib.Tactic.Common

namespace AgentRoom.Library

variable {ε δ σ α β : Type}

-- Reading a successful chain of fallible steps back, one step at a time.
theorem bind_ok (first : Except ε α) (rest : α → Except ε β) (result : β) :
    (first >>= rest) = .ok result ↔ ∃ value, first = .ok value ∧ rest value = .ok result := by
  cases first with
  | error failure => simp [bind, Except.bind]
  | ok value => simp [bind, Except.bind]

theorem map_ok (first : Except ε α) (change : α → β) (result : β) :
    (change <$> first) = .ok result ↔ ∃ value, first = .ok value ∧ change value = result := by
  cases first with
  | error failure => simp [Functor.map, Except.map]
  | ok value => simp [Functor.map, Except.map]

theorem bind_some (first : Option α) (rest : α → Option β) (result : β) :
    (first >>= rest) = some result ↔ ∃ value, first = some value ∧ rest value = some result := by
  cases first with
  | none => simp
  | some value => simp

def ensure (failure : ε) (condition : Prop) [Decidable condition] : Except ε Unit :=
  if condition then .ok () else .error failure

theorem unbind {rest : α → Except ε β} (done : first >>= rest = .ok result) :
    ∃ value, first = .ok value ∧ rest value = .ok result :=
  (bind_ok first rest result).mp done

theorem ensure_ok (failure : ε) (condition : Prop) [Decidable condition] (answer : Unit) :
    ensure failure condition = .ok answer ↔ condition := by
  by_cases holds : condition <;> simp [ensure, holds]

def mapError (failure : ε) : Except δ α → Except ε α
  | .ok value => .ok value
  | .error _ => .error failure

@[simp] theorem map_error_ok (failure : ε) (value : α) : mapError failure (.ok value : Except δ α) = .ok value := rfl

theorem map_error_read {answer : Except δ α} (reads : answer.mapError change = .ok value) : answer = .ok value := by
  cases answer with
  | ok found =>
    cases reads
    rfl
  | error failure => cases reads

theorem map_m_restores {decode : α → Except ε β} (restores : ∀ value, decode (encode value) = .ok value)
    (values : List β) : (values.map encode).mapM decode = .ok values := by
  induction values with
  | nil => rfl
  | cons value rest ih =>
    rw [List.map_cons, List.mapM_cons, restores value, ih]
    rfl

variable (step : σ → α → Except ε σ)

theorem fold_ok_nil (state result : σ) : List.foldlM step state [] = .ok result ↔ state = result := by
  simp [pure, Except.pure]

theorem fold_ok_cons (state result : σ) (item : α) (rest : List α) : List.foldlM step state (item :: rest) = .ok result ↔
      ∃ next, step state item = .ok next ∧ List.foldlM step next rest = .ok result := by
  rw [List.foldlM_cons, bind_ok]

-- The loop rule: what each step keeps, the whole loop keeps.
theorem fold_ok_invariant (invariant : σ → Prop) (items : List α)
    (keeps : ∀ item ∈ items, ∀ state next, invariant state → step state item = .ok next → invariant next)
    (state result : σ) (initial : invariant state) (run : List.foldlM step state items = .ok result) : invariant result := by
  induction items generalizing state with
  | nil =>
    rw [fold_ok_nil] at run
    exact run ▸ initial
  | cons item rest ih =>
    obtain ⟨next, stepped, later⟩ := (fold_ok_cons step state result item rest).mp run
    have reached := keeps item List.mem_cons_self state next initial stepped
    exact ih (fun other later => keeps other (List.mem_cons_of_mem _ later)) next reached later

end AgentRoom.Library
