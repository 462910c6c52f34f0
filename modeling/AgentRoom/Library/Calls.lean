import AgentRoom.Library.Runs

namespace AgentRoom.Library

-- What a caller does: it ends with a value, or it makes a call and goes on with
-- whatever the answer is.
inductive Program (Op : Type) (Answer : Op → Type) (α : Type) where
  | done (value : α)
  | call (op : Op) (next : Answer op → Program Op Answer α)

variable {σ κ Op α β ε : Type} {Answer : Op → Type}

namespace Program

def bind : Program Op Answer α → (α → Program Op Answer β) → Program Op Answer β
  | .done value, next => next value
  | .call op rest, next => .call op fun answer => (rest answer).bind next

instance : Monad (Program Op Answer) where
  pure := .done
  bind := bind

end Program

def consult (op : Op) (read : Answer op → Except ε α) : ExceptT ε (Program Op Answer) α :=
  ExceptT.mk (.call op fun answer => .done (read answer))

def settled (result : Except ε α) : ExceptT ε (Program Op Answer) α := ExceptT.mk (.done result)

def failAs {δ : Type} (change : δ → ε) (program : ExceptT δ (Program Op Answer) α) : ExceptT ε (Program Op Answer) α :=
  ExceptT.mk (program.run.bind fun result => .done (result.mapError change))

def attempted {δ : Type} (program : ExceptT δ (Program Op Answer) α) : ExceptT ε (Program Op Answer) (Except δ α) :=
  ExceptT.mk (program.run.bind fun result => .done (.ok result))

-- The world the calls are made in: what each call may answer and leave behind,
-- and what happens there by itself.
structure Environment (σ Op : Type) (Answer : Op → Type) where
  answers : σ → (op : Op) → Answer op → σ → Prop
  moves : σ → σ → Prop

-- What holds of the world throughout, and how it may change between two moments.
structure Rely (environment : Environment σ Op Answer) where
  invariant : σ → Prop
  later : σ → σ → Prop
  same : ∀ state, later state state
  trans : ∀ first second third, later first second → later second third → later first third
  moved : ∀ state next, invariant state → environment.moves state next → invariant next ∧ later state next

section

variable {environment : Environment σ Op Answer} (rely : Rely environment) (may : Op → σ → Prop)

-- It holds at every moment from now on.
def Rely.Stays (holds : σ → Prop) (state : σ) : Prop :=
  ∀ now, rely.invariant now → rely.later state now → holds now

variable {state next : σ}

theorem stays_later (later : rely.later state next) (stays : rely.Stays holds state) : rely.Stays holds next :=
  fun now invariant after => stays now invariant (rely.trans _ _ _ later after)

-- Whatever the others do in between, the program makes only calls it may make,
-- and what it ends with satisfies the postcondition.
def Safe (post : α → σ → Prop) : Program Op Answer α → σ → Prop
  | .done value, state => rely.Stays (post value) state
  | .call op next, state => rely.Stays (fun now => may op now ∧
      ∀ answer after, environment.answers now op answer after → rely.invariant after → rely.later now after →
        Safe post (next answer) after) state

variable {rely may}

theorem safe_later
    (later : rely.later state next) (safe : Safe rely may post program state) : Safe rely may post program next := by
  cases program with
  | done value => exact stays_later rely later safe
  | call op continuing => exact stays_later rely later safe

theorem safe_of_later (safe : rely.Stays (Safe rely may post program) state) : Safe rely may post program state := by
  cases program with
  | done value => exact fun now invariant later => safe now invariant later now invariant (rely.same now)
  | call op continuing => exact fun now invariant later => safe now invariant later now invariant (rely.same now)

theorem safe_mono (weaker post : α → σ → Prop) (program : Program Op Answer α) (state : σ)
    (implies : ∀ value now, rely.invariant now → post value now → weaker value now)
    (safe : Safe rely may post program state) : Safe rely may weaker program state := by
  induction program generalizing state with
  | done value => exact fun now invariant later => implies value now invariant (safe now invariant later)
  | call op continuing ih =>
    intro now invariant later
    obtain ⟨allowed, answered⟩ := safe now invariant later
    exact ⟨allowed, fun answer after answers kept between => ih answer after (answered answer after answers kept between)⟩

theorem safe_frame (post : α → σ → Prop) (holds : σ → Prop) (program : Program Op Answer α) (state : σ)
    (stays : rely.Stays holds state) (safe : Safe rely may post program state) :
    Safe rely may (fun value now => post value now ∧ holds now) program state := by
  induction program generalizing state with
  | done value => exact fun now invariant later => ⟨safe now invariant later, stays now invariant later⟩
  | call op continuing ih =>
    intro now invariant later
    obtain ⟨allowed, answered⟩ := safe now invariant later
    refine ⟨allowed, fun answer after answers kept between => ih answer after ?_ (answered answer after answers kept between)⟩
    exact stays_later rely (rely.trans _ _ _ later between) stays

theorem safe_bind (middle : α → σ → Prop) (post : β → σ → Prop) (program : Program Op Answer α)
    (next : α → Program Op Answer β) (state : σ) (first : Safe rely may middle program state)
    (rest : ∀ value now, rely.invariant now → rely.later state now → rely.Stays (middle value) now →
      Safe rely may post (next value) now) :
    Safe rely may post (program.bind next) state := by
  induction program generalizing state with
  | done value =>
    exact safe_of_later fun now invariant later =>
      rest value now invariant later (stays_later rely later first)
  | call op continuing ih =>
    intro now invariant later
    obtain ⟨allowed, answered⟩ := first now invariant later
    refine ⟨allowed, fun answer after answers kept between => ?_⟩
    refine ih answer after (answered answer after answers kept between) fun value reached holds since middled => ?_
    exact rest value reached holds (rely.trans _ _ _ later (rely.trans _ _ _ between since)) middled

-- A failure passes through: what is left is the result.
def Passes (post : Except ε β → σ → Prop) (middle : α → σ → Prop) : Except ε α → σ → Prop
  | .ok value, state => middle value state
  | .error failure, state => post (.error failure) state

theorem safe_then (middle : α → σ → Prop) {program : ExceptT ε (Program Op Answer) α}
    {next : α → ExceptT ε (Program Op Answer) β} (first : Safe rely may (Passes post middle) program.run state)
    (rest : ∀ value now, rely.invariant now → rely.later state now → middle value now → Safe rely may post (next value).run now) :
    Safe rely may post (program >>= next).run state := by
  refine safe_bind (Passes post middle) post program.run _ state first ?_
  intro result now invariant later passed
  cases result with
  | ok value => exact rest value now invariant later (passed now invariant (rely.same now))
  | error failure => exact passed

theorem safe_consult {read : Answer op → Except ε α}
    (made : rely.Stays (fun now => may op now ∧ ∀ answer after, environment.answers now op answer after →
      rely.invariant after → rely.later now after → rely.Stays (post (read answer)) after) state) :
    Safe rely may post (consult op read : ExceptT ε (Program Op Answer) α).run state :=
  made

theorem safe_settled (holds : rely.Stays (post result) state) :
    Safe rely may post (settled result : ExceptT ε (Program Op Answer) α).run state :=
  holds

theorem safe_attempted {post : Except ε (Except δ α) → σ → Prop} {program : ExceptT δ (Program Op Answer) α}
    (safe : Safe rely may (fun result now => post (.ok result) now) program.run state) :
    Safe rely may post (attempted program : ExceptT ε (Program Op Answer) (Except δ α)).run state :=
  safe_bind _ post program.run _ state safe fun _ _ _ _ holds => holds

end

structure Caller (σ κ Op : Type) (Answer : Op → Type) (α : Type) where
  request : κ
  origin : σ
  rest : Program Op Answer α

structure Ended (σ κ α : Type) where
  request : κ
  origin : σ
  result : α

structure Made (κ Op : Type) (Answer : Op → Type) where
  request : κ
  op : Op
  answer : Answer op

structure Scene (σ κ Op : Type) (Answer : Op → Type) (α : Type) where
  world : σ
  callers : List (Caller σ κ Op Answer α)
  ended : List (Ended σ κ α)
  history : List (Made κ Op Answer)

namespace Scene

def opening (world : σ) : Scene σ κ Op Answer α := ⟨world, [], [], []⟩

variable (scene : Scene σ κ Op Answer α)

def join (program : κ → Program Op Answer α) (request : κ) : Scene σ κ Op Answer α :=
  { scene with callers := scene.callers ++ [⟨request, scene.world, program request⟩] }

def leave (index : Nat) : Scene σ κ Op Answer α :=
  { scene with callers := scene.callers.eraseIdx index }

def finish (index : Nat) (caller : Caller σ κ Op Answer α) (value : α) : Scene σ κ Op Answer α :=
  { scene with
    callers := scene.callers.eraseIdx index
    ended := scene.ended ++ [⟨caller.request, caller.origin, value⟩] }

def goOn (index : Nat) (caller : Caller σ κ Op Answer α) (op : Op) (answer : Answer op)
    (rest : Program Op Answer α) (world : σ) : Scene σ κ Op Answer α where
  world
  callers := scene.callers.set index { caller with rest }
  ended := scene.ended
  history := scene.history ++ [⟨caller.request, op, answer⟩]

end Scene

-- A new call is made, one of those on their way goes a step further, one is cut
-- off for good, or the world moves by itself.
inductive Turn (κ : Type) where
  | join (request : κ)
  | proceed (index : Nat)
  | cut (index : Nat)
  | outside

def Turns (environment : Environment σ Op Answer) (program : κ → Program Op Answer α) (scene : Scene σ κ Op Answer α) :
    Turn κ → Scene σ κ Op Answer α → Prop
  | .join request, next => next = scene.join program request
  | .proceed index, next => ∃ caller, scene.callers[index]? = some caller ∧
      match caller.rest with
      | .done value => next = scene.finish index caller value
      | .call op continuing => ∃ answer world, environment.answers scene.world op answer world ∧
          next = scene.goOn index caller op answer (continuing answer) world
  | .cut index, next => next = scene.leave index
  | .outside, next => ∃ world, environment.moves scene.world world ∧ next = { scene with world }

-- What each call may do, judged by what was asked and when, and what its result promises.
structure Discipline (environment : Environment σ Op Answer) (κ α : Type) extends Rely environment where
  may : κ → σ → Op → σ → Prop
  promise : κ → σ → α → σ → Prop
  answered : ∀ request origin state op answer next, invariant state → later origin state → may request origin op state →
    environment.answers state op answer next → invariant next ∧ later state next

section

variable {environment : Environment σ Op Answer} (discipline : Discipline environment κ α)

def Discipline.SafeCall (request : κ) (origin : σ) (program : Program Op Answer α) (state : σ) : Prop :=
  Safe discipline.toRely (discipline.may request origin) (discipline.promise request origin) program state

structure Discipline.Kept (scene : Scene σ κ Op Answer α) : Prop where
  invariant : discipline.invariant scene.world
  callers : ∀ caller ∈ scene.callers, discipline.later caller.origin scene.world ∧
    discipline.SafeCall caller.request caller.origin caller.rest scene.world
  ended : ∀ call ∈ scene.ended, discipline.later call.origin scene.world ∧
    discipline.toRely.Stays (discipline.promise call.request call.origin call.result) scene.world

variable {discipline} {program : κ → Program Op Answer α}

theorem kept_moved (kept : discipline.Kept scene)
    (invariant : discipline.invariant world) (later : discipline.later scene.world world) :
    discipline.Kept { scene with world } where
  invariant := invariant
  callers := by
    intro caller listed
    obtain ⟨since, safe⟩ := kept.callers caller listed
    exact ⟨discipline.trans _ _ _ since later, safe_later later safe⟩
  ended := by
    intro call listed
    obtain ⟨since, holds⟩ := kept.ended call listed
    exact ⟨discipline.trans _ _ _ since later, stays_later _ later holds⟩

theorem kept_turn
    (opens : ∀ request state, discipline.invariant state → discipline.SafeCall request state (program request) state)
    (kept : discipline.Kept scene)
    (turns : Turns environment program scene turn next) : discipline.Kept next ∧ discipline.later scene.world next.world := by
  cases turn with
  | join request =>
    cases turns
    refine ⟨⟨kept.invariant, ?_, kept.ended⟩, discipline.same _⟩
    intro caller listed
    rcases List.mem_append.mp listed with old | new
    · exact kept.callers caller old
    · cases List.mem_singleton.mp new
      exact ⟨discipline.same _, opens request scene.world kept.invariant⟩
  | proceed index =>
    obtain ⟨caller, found, proceeded⟩ := turns
    have listed := List.mem_of_getElem? found
    obtain ⟨since, safe⟩ := kept.callers caller listed
    cases left : caller.rest with
    | done value =>
      rw [left] at proceeded safe
      cases proceeded
      refine ⟨⟨kept.invariant, fun other there => kept.callers other (List.mem_of_mem_eraseIdx there), ?_⟩, discipline.same _⟩
      intro call ended
      rcases List.mem_append.mp ended with old | new
      · exact kept.ended call old
      · cases List.mem_singleton.mp new
        exact ⟨since, safe⟩
    | call op continuing =>
      rw [left] at proceeded safe
      obtain ⟨answer, world, answers, built⟩ := proceeded
      cases built
      obtain ⟨allowed, answered⟩ := safe scene.world kept.invariant (discipline.same _)
      obtain ⟨invariant, later⟩ := discipline.answered caller.request caller.origin scene.world op answer world
        kept.invariant since allowed answers
      have moved := kept_moved kept invariant later
      refine ⟨⟨moved.invariant, ?_, moved.ended⟩, later⟩
      intro other there
      rcases List.mem_or_eq_of_mem_set there with old | new
      · exact moved.callers other old
      · subst new
        exact ⟨discipline.trans _ _ _ since later, answered answer world answers invariant later⟩
  | cut index =>
    cases turns
    exact ⟨⟨kept.invariant, fun other there => kept.callers other (List.mem_of_mem_eraseIdx there), kept.ended⟩,
      discipline.same _⟩
  | outside =>
    obtain ⟨world, moves, built⟩ := turns
    cases built
    obtain ⟨invariant, later⟩ := discipline.moved scene.world world kept.invariant moves
    exact ⟨kept_moved kept invariant later, later⟩

section

variable (opens : ∀ request state, discipline.invariant state → discipline.SafeCall request state (program request) state)
include opens

-- What the answers and the moves of the world keep of the history, every run keeps.
theorem kept_history (records : σ → List (Made κ Op Answer) → Prop)
    (answered : ∀ history request origin state op answer next, records state history → discipline.invariant state →
      discipline.later origin state → discipline.may request origin op state → environment.answers state op answer next →
      discipline.later state next → records next (history ++ [⟨request, op, answer⟩]))
    (moved : ∀ history state next, records state history → discipline.invariant state → environment.moves state next →
      discipline.later state next → records next history) (kept : discipline.Kept start)
    (recorded : records start.world start.history) (run : Runs (Turns environment program) start turns final) :
    records final.world final.history := by
  refine (runs_invariant (fun scene => discipline.Kept scene ∧ records scene.world scene.history) ?_ ⟨kept, recorded⟩ run).2
  intro scene turn next ⟨holds, told⟩ turned
  obtain ⟨holds', later⟩ := kept_turn opens holds turned
  refine ⟨holds', ?_⟩
  cases turn with
  | join request =>
    cases turned
    exact told
  | proceed index =>
    obtain ⟨caller, found, proceeded⟩ := turned
    obtain ⟨since, safe⟩ := holds.callers caller (List.mem_of_getElem? found)
    cases left : caller.rest with
    | done value =>
      rw [left] at proceeded
      cases proceeded
      exact told
    | call op continuing =>
      rw [left] at proceeded safe
      obtain ⟨answer, world, answers, built⟩ := proceeded
      cases built
      exact answered scene.history caller.request caller.origin scene.world op answer world told holds.invariant since
        (safe scene.world holds.invariant (discipline.same _)).1 answers later
  | cut index =>
    cases turned
    exact told
  | outside =>
    obtain ⟨world, moves, built⟩ := turned
    cases built
    exact moved scene.history scene.world world told holds.invariant moves later

theorem kept_run (kept : discipline.Kept start) (run : Runs (Turns environment program) start turns final) :
    discipline.Kept final ∧ discipline.later start.world final.world := by
  refine runs_invariant (fun scene => discipline.Kept scene ∧ discipline.later start.world scene.world) ?_ ⟨kept, discipline.same _⟩ run
  intro scene turn next ⟨holds, since⟩ turned
  obtain ⟨holds', later⟩ := kept_turn opens holds turned
  exact ⟨holds', discipline.trans _ _ _ since later⟩

end

theorem opening_kept (invariant : discipline.invariant world) : discipline.Kept (.opening world) := by
  refine ⟨invariant, ?_, ?_⟩
  · intro caller listed
    cases listed
  · intro call listed
    cases listed

theorem kept_may (kept : discipline.Kept scene) (listed : caller ∈ scene.callers) (next : caller.rest = .call op continuing) :
    discipline.may caller.request caller.origin op scene.world := by
  have safe := (kept.callers caller listed).2
  rw [next] at safe
  exact (safe scene.world kept.invariant (discipline.same _)).1

theorem kept_promise (kept : discipline.Kept scene)
    (listed : call ∈ scene.ended) : discipline.promise call.request call.origin call.result scene.world :=
  (kept.ended call listed).2 scene.world kept.invariant (discipline.same _)

end

theorem joined_run (environment : Environment σ Op Answer) (program : κ → Program Op Answer α) (allowed : κ → Prop)
    (start final : Scene σ κ Op Answer α) (turns : List (Turn κ)) (joins : ∀ request, .join request ∈ turns → allowed request)
    (calling : ∀ caller ∈ start.callers, allowed caller.request) (told : ∀ made ∈ start.history, allowed made.request)
    (run : Runs (Turns environment program) start turns final) :
    (∀ caller ∈ final.callers, allowed caller.request) ∧ ∀ made ∈ final.history, allowed made.request := by
  induction turns generalizing start with
  | nil =>
    cases run
    exact ⟨calling, told⟩
  | cons turn rest ih =>
    obtain ⟨next, turned, onward⟩ := run
    have joins' : ∀ request, .join request ∈ rest → allowed request :=
      fun request listed => joins request (List.mem_cons_of_mem _ listed)
    cases turn with
    | join request =>
      cases turned
      refine ih (start.join program request) joins' ?_ told onward
      intro caller listed
      rcases List.mem_append.mp listed with old | new
      · exact calling caller old
      · cases List.mem_singleton.mp new
        exact joins request List.mem_cons_self
    | proceed index =>
      obtain ⟨caller, found, proceeded⟩ := turned
      have mine := calling caller (List.mem_of_getElem? found)
      cases left : caller.rest with
      | done value =>
        rw [left] at proceeded
        cases proceeded
        exact ih (start.finish index caller value) joins'
          (fun other there => calling other (List.mem_of_mem_eraseIdx there)) told onward
      | call op continuing =>
        rw [left] at proceeded
        obtain ⟨answer, world, _, built⟩ := proceeded
        cases built
        refine ih _ joins' ?_ ?_ onward
        · intro other there
          rcases List.mem_or_eq_of_mem_set there with old | new
          · exact calling other old
          · exact new ▸ mine
        · intro made there
          rcases List.mem_append.mp there with old | new
          · exact told made old
          · cases List.mem_singleton.mp new
            exact mine
    | cut index =>
      cases turned
      exact ih (start.leave index) joins' (fun other there => calling other (List.mem_of_mem_eraseIdx there)) told onward
    | outside =>
      obtain ⟨world, _, built⟩ := turned
      cases built
      exact ih { start with world } joins' calling told onward

theorem world_run {program : κ → Program Op Answer α} {holds : σ → Prop}
    (answered : ∀ state op answer next, holds state → environment.answers state op answer next → holds next)
    (moved : ∀ state next, holds state → environment.moves state next → holds next) {turns : List (Turn κ)}
    (initial : holds start.world) (run : Runs (Turns environment program) start turns final) : holds final.world := by
  refine runs_invariant (fun scene => holds scene.world) ?_ initial run
  intro scene turn next held turned
  cases turn with
  | join request =>
    cases turned
    exact held
  | proceed index =>
    obtain ⟨caller, _, proceeded⟩ := turned
    cases left : caller.rest with
    | done value =>
      rw [left] at proceeded
      cases proceeded
      exact held
    | call op continuing =>
      rw [left] at proceeded
      obtain ⟨answer, world, answers, built⟩ := proceeded
      cases built
      exact answered scene.world op answer world held answers
  | cut index =>
    cases turned
    exact held
  | outside =>
    obtain ⟨world, moves, built⟩ := turned
    cases built
    exact moved scene.world world held moves

section

variable {environment : Environment σ Op Answer} (program : κ → Program Op Answer α)

def Follows : Program Op Answer α → List ((op : Op) × Answer op) → Program Op Answer α → Prop
  | program, [], rest => program = rest
  | program, ⟨op, answer⟩ :: answers, rest => ∃ continuing, program = .call op continuing ∧
      Follows (continuing answer) answers rest

def Serves (environment : Environment σ Op Answer) : σ → List ((op : Op) × Answer op) → σ → Prop
  | world, [], final => world = final
  | world, ⟨op, answer⟩ :: answers, final => ∃ next, environment.answers world op answer next ∧
      Serves environment next answers final

theorem call_turn (scene : Scene σ κ Op Answer α) (index : Nat) (caller : Caller σ κ Op Answer α) (op : Op) (answer : Answer op)
    (continuing : Answer op → Program Op Answer α) (world : σ) (found : scene.callers[index]? = some caller)
    (left : caller.rest = .call op continuing) (answers : environment.answers scene.world op answer world) :
    Turns environment program scene (.proceed index) (scene.goOn index caller op answer (continuing answer) world) := by
  refine ⟨caller, found, ?_⟩
  rw [left]
  exact ⟨answer, world, answers, rfl⟩

theorem done_turn (found : scene.callers[index]? = some caller) (left : caller.rest = .done value) :
    Turns environment program scene (.proceed index) (scene.finish index caller value) := by
  refine ⟨caller, found, ?_⟩
  rw [left]

def Scene.proceeded (scene : Scene σ κ Op Answer α) (index : Nat) (caller : Caller σ κ Op Answer α)
    (answers : List ((op : Op) × Answer op)) (rest : Program Op Answer α) (world : σ) : Scene σ κ Op Answer α where
  world
  callers := scene.callers.set index { caller with rest }
  ended := scene.ended
  history := scene.history ++ answers.map fun answered => ⟨caller.request, answered.1, answered.2⟩

theorem proceed_runs (scene : Scene σ κ Op Answer α) (index : Nat) (caller : Caller σ κ Op Answer α)
    (found : scene.callers[index]? = some caller) (follows : Follows caller.rest answers rest)
    (serves : Serves environment scene.world answers world) :
    Runs (Turns environment program) scene (List.replicate answers.length (.proceed index))
      (scene.proceeded index caller answers rest world) := by
  induction answers generalizing scene caller with
  | nil =>
    cases follows
    cases serves
    have same : scene.callers.set index caller = scene.callers := by
      obtain ⟨within, read⟩ := List.getElem?_eq_some_iff.mp found
      rw [← read, List.set_getElem_self]
    simp [Runs, Scene.proceeded, same]
  | cons answered later ih =>
    obtain ⟨op, answer⟩ := answered
    obtain ⟨continuing, left, follows'⟩ := follows
    obtain ⟨next, answers, serves'⟩ := serves
    have turns := call_turn program scene index caller op answer continuing next found left answers
    have within := (List.getElem?_eq_some_iff.mp found).1
    have found' : (scene.goOn index caller op answer (continuing answer) next).callers[index]? =
        some { caller with rest := continuing answer } := List.getElem?_set_self within
    have onward := ih (scene.goOn index caller op answer (continuing answer) next) _ found' follows' serves'
    refine ⟨_, turns, ?_⟩
    simpa [Scene.goOn, Scene.proceeded, List.set_set, List.append_assoc] using onward

end

end AgentRoom.Library
