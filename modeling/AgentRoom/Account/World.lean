import AgentRoom.Account.Authentication
import AgentRoom.Library.Sequential

namespace AgentRoom.Account

open Library

structure Commit where
  before : AccountStore
  op : StoreOp
  answer : StoreAnswer op
  after : AccountStore

def Performs (store : AccountStore) (commit : Commit) (next : AccountStore) : Prop :=
  commit.before = store ∧ store.perform commit.op = .ok (commit.answer, next) ∧ commit.after = next

structure AccountWorld where
  store : AccountStore
  now : UtcMillis
  journal : List Commit

def AccountWorld.commit (world : AccountWorld) (op : StoreOp) (answer : StoreAnswer op) (store : AccountStore) : AccountWorld :=
  { world with store, journal := world.journal ++ [⟨world.store, op, answer, store⟩] }

-- A call of the store takes effect as a whole or not at all; its answer may get lost.
def StoreReplies (world : AccountWorld) (op : StoreOp) (reply : StoreResult (StoreAnswer op)) (next : AccountWorld) : Prop :=
  (∃ answer store, world.store.perform op = .ok (answer, store) ∧ next = world.commit op answer store ∧
      (reply = .ok answer ∨ reply = .error .unavailable)) ∨
    (next = world ∧ ∃ error, reply = .error error ∧ (world.store.perform op = .error error ∨ error = .unavailable))

def AccountReplies (world : AccountWorld) : (call : AccountCall) → AccountAnswer call → AccountWorld → Prop
  | .clock, answer, next => answer = world.now ∧ next = world
  | .generate, _, next | .newId, _, next | .beginAuthorization _, _, next | .exchangeCode _ _ _, _, next | .endSessions _, _, next |
    .signOutOtherDevices _ _, _, next => next = world
  | .store op, reply, next => StoreReplies world op reply next

def TimePasses (world next : AccountWorld) : Prop := ∃ now, world.now ≤ now ∧ next = { world with now }

def accountEnvironment : Environment AccountWorld AccountCall AccountAnswer where
  answers := AccountReplies
  moves := TimePasses

theorem store_replied (answer : StoreAnswer op) (replies : StoreReplies world op reply next) (ok : reply = .ok answer) :
    ∃ store, world.store.perform op = .ok (answer, store) ∧ next = world.commit op answer store := by
  rcases replies with ⟨found, store, performed, rfl, same | lost⟩ | ⟨_, error, failed, _⟩
  · cases same.symm.trans ok
    exact ⟨store, performed, rfl⟩
  · cases lost.symm.trans ok
  · cases failed.symm.trans ok

def AccountStore.empty : AccountStore := ⟨[], [], [], []⟩

def openingAt (now : UtcMillis) : Scene AccountWorld AccountRequest AccountCall AccountAnswer (Except AuthenticationFailure AccountReply) :=
  .opening ⟨.empty, now, []⟩

abbrev AccountScene := Scene AccountWorld AccountRequest AccountCall AccountAnswer (Except AuthenticationFailure AccountReply)

def AccountRuns (policy : AuthenticationPolicy) (encodings : AccountEncodings) (start : AccountScene)
    (turns : List (Turn AccountRequest)) (final : AccountScene) : Prop :=
  Runs (Turns accountEnvironment (accountProgram policy encodings)) start turns final

def Journaled (start : AccountStore) (world : AccountWorld) : Prop := Runs Performs start world.journal world.store

theorem journaled_reply
    (journaled : Journaled start world) (replies : AccountReplies world call answer next) : Journaled start next := by
  cases call with
  | clock => exact replies.2 ▸ journaled
  | store op =>
    rcases replies with ⟨found, store, performed, rfl, _⟩ | ⟨rfl, _⟩
    · exact (runs_append start store world.journal _).mpr ⟨world.store, journaled, store, ⟨rfl, performed, rfl⟩, rfl⟩
    · exact journaled
  | _ => exact replies ▸ journaled

theorem account_journaled (fresh : start.world.journal = []) (run : AccountRuns policy encodings start turns final) :
    Journaled start.world.store final.world := by
  refine world_run ?_ ?_ ?_ run
  · exact fun state op answer next journaled answers => journaled_reply journaled answers
  · rintro state next journaled ⟨now, _, rfl⟩
    exact journaled
  · rw [Journaled, fresh]
    rfl

section

variable (secret : Nat → SecretValue) (authorization : OidcAuthorization) (identity : UtcMillis → VerifiedOidcIdentity)

def oblige (world : AccountWorld) : (call : AccountCall) → AccountAnswer call × AccountWorld
  | .clock => (world.now, world)
  | .generate => (some (secret world.journal.length), world)
  | .newId => (world.journal.length, world)
  | .beginAuthorization _ => (.ok authorization, world)
  | .exchangeCode _ _ _ => (.ok (identity world.now), world)
  | .endSessions _ => (.ok (), world)
  | .signOutOtherDevices _ _ => (.ok 0, world)
  | .store op =>
    match world.store.perform op with
    | .ok (answer, store) => (.ok answer, world.commit op answer store)
    | .error error => (.error error, world)

theorem oblige_replies (world : AccountWorld) (call : AccountCall) :
    accountEnvironment.answers world call (oblige secret authorization identity world call).1
      (oblige secret authorization identity world call).2 := by
  cases call with
  | clock => exact ⟨rfl, rfl⟩
  | store op =>
    show StoreReplies world op (oblige secret authorization identity world (.store op)).1 _
    rw [oblige]
    cases performed : world.store.perform op with
    | ok result => exact .inl ⟨result.1, result.2, performed, rfl, .inl rfl⟩
    | error error => exact .inr ⟨rfl, error, rfl, .inl performed⟩
  | _ => rfl

def tick (amount : Nat) (world : AccountWorld) : AccountWorld :=
  if fits : world.now.value + amount ≤ i64Max then { world with now := ⟨world.now.value + amount, fits⟩ } else world

theorem tick_passes (world : AccountWorld) : accountEnvironment.moves world (tick amount world) := by
  by_cases fits : world.now.value + amount ≤ i64Max
  · exact ⟨⟨_, fits⟩, Nat.le_add_right .., by rw [tick, dif_pos fits]⟩
  · exact ⟨world.now, UtcMillis.le_refl _, by rw [tick, dif_neg fits]⟩

end

end AgentRoom.Account
