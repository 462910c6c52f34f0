import AgentRoom.Projection.GapCovered

namespace AgentRoom.MessageSync

open Library

theorem step_tracked (tracked : Tracked server state)
    (anchored : Anchored server state input) (step : SyncStep server state input next) : Tracked server next := by
  cases input with
  | sync reconciled authenticate batch shownFrom =>
    obtain ⟨answers, built⟩ := step
    exact built ▸ synced_tracked tracked answers anchored
  | fill authenticate source gap =>
    obtain ⟨pending, serves, built⟩ := step
    exact built ▸ filled_tracked tracked pending serves anchored

theorem numbers_apart (first second : Nat)
    (same : List.replicate first '0' ++ '1' :: rest = List.replicate second '0' ++ '1' :: rest') :
    first = second ∧ rest = rest' := by
  induction first generalizing second with
  | zero =>
    cases second with
    | zero => simpa using same
    | succ second => simp [List.replicate_succ] at same
  | succ first ih =>
    cases second with
    | zero => simp [List.replicate_succ] at same
    | succ second =>
      obtain ⟨level, names⟩ := ih second (by simpa [List.replicate_succ] using same)
      exact ⟨congrArg Nat.succ level, names⟩

def numbered : Homeserver where
  eventId room position := ⟨String.ofList (List.replicate position '0' ++ '1' :: room.text.toList)⟩
  message _ _ := true
  position _ token := token.text.length
  distinct := by
    intro room other first second same
    obtain ⟨level, names⟩ := numbers_apart first second (String.ofList_injective (MatrixEventId.mk.inj same))
    refine ⟨?_, level⟩
    cases room
    cases other
    exact congrArg MatrixRoomId.mk (String.toList_injective names)

def lobby : MatrixRoomId := ⟨"!r"⟩

def said (eventId : String) (message : Nat) (body : MessageBody) : MatrixTimelineEvent where
  eventId := some ⟨eventId⟩
  sender := some "@alice:x"
  eventType := previewEventTypeV2
  stateKey := none
  originServerTimestamp := some message
  encryption := .plaintext
  session := none
  content := .ok ⟨"alice", false, body⟩

def chat (eventId : String) (message : Nat) : MatrixTimelineEvent :=
  said eventId message (.preview ⟨message⟩ eventId ⟨⟨message⟩, eventId⟩)

def withdrawal (eventId : String) (message : Nat) : MatrixTimelineEvent :=
  said eventId message (.revision ⟨message⟩ .redact none none)

def trusting : MessageEventAuthenticator := fun _ => .ok .trusted

def lobbySync (token : String) (limited : Bool) (previousBatch : Option MatrixBackfillToken)
    (timeline : List MatrixTimelineEvent) : MatrixSyncBatch :=
  ⟨⟨token⟩, [⟨lobby, .joined, limited, previousBatch, timeline⟩]⟩

theorem delivers_said
    (named : numbered.eventId lobby position = ⟨eventId⟩) : numbered.Delivers lobby position (said eventId message body) :=
  ⟨congrArg some named.symm, fun _ => .inr (by simp [isMessageEvent, said])⟩

theorem names : numbered.eventId lobby 0 = ⟨"1!r"⟩ ∧ numbered.eventId lobby 1 = ⟨"01!r"⟩ ∧
    numbered.eventId lobby 2 = ⟨"001!r"⟩ ∧ numbered.eventId lobby 3 = ⟨"0001!r"⟩ := by decide

theorem lobby_answers (delivers : numbered.Delivers lobby shownFrom event)
    (pointed : ∀ previous, previousBatch = some previous → previous.text.length = shownFrom)
    (onwards : ∀ progress, followed lobby = some progress → progress.shownFrom ≤ shownFrom ∧
      progress.reached ≤ shownFrom + 1 ∧ (progress.reached < shownFrom → limited = true)) :
    numbered.Answers followed (lobbySync token limited previousBatch [event]) fun _ => shownFrom := by
  have only (room : MatrixRoomSync) (listed : room ∈ (lobbySync token limited previousBatch [event]).joined) :
      room = ⟨lobby, .joined, limited, previousBatch, [event]⟩ := by
    simpa [MatrixSyncBatch.joined, lobbySync] using listed
  constructor
  · simp [MatrixSyncBatch.joined, lobbySync]
  · intro room listed index found here
    rw [only room listed] at here ⊢
    cases index with
    | zero =>
      cases here
      exact delivers
    | succ index => simp at here
  · intro room listed previous named
    rw [only room listed] at named ⊢
    exact pointed previous named
  · intro room listed progress known
    rw [only room listed] at known ⊢
    obtain ⟨forward, further, _⟩ := onwards progress known
    exact ⟨forward, further⟩
  · intro room listed progress known behind
    rw [only room listed] at known ⊢
    exact (onwards progress known).2.2 behind

def lobbyInput (token : String) (limited : Bool) (previousBatch : Option MatrixBackfillToken) (event : MatrixTimelineEvent)
    (shownFrom : Nat) : SyncInput :=
  .sync (.ok 0) trusting (lobbySync token limited previousBatch [event]) fun _ => shownFrom

def lobbySynced (state : SyncState) (token : String) (limited : Bool) (previousBatch : Option MatrixBackfillToken)
    (event : MatrixTimelineEvent) (shownFrom : Nat) : SyncState :=
  synced state (.ok 0) trusting (lobbySync token limited previousBatch [event]) fun _ => shownFrom

def greeted : SyncState := lobbySynced .initial "s1" false none (chat "1!r" 0) 0

-- The message at position 1 is left out, no token leads to it, and what comes
-- after it takes back an older message.
def skipped : SyncState := lobbySynced greeted "s2" true none (withdrawal "001!r" 0) 2

def carriedOn : SyncState := lobbySynced skipped "s3" false none (chat "0001!r" 3) 3

theorem greeting_step : SyncStep numbered .initial (lobbyInput "s1" false none (chat "1!r" 0) 0) greeted := by
  refine ⟨lobby_answers (delivers_said names.1) ?_ ?_, rfl⟩
  · rintro previous ⟨⟩
  · rintro progress ⟨⟩

def resumed : SyncState := lobbySynced greeted "s2" true (some ⟨"t2"⟩) (chat "001!r" 2) 2

def lobbyGap : PendingTimelineGap := ⟨⟨"s2"⟩, lobby, ⟨"t2"⟩⟩

def lobbyPages : BackfillSource := fun _ request =>
  if request.start.text.length = 2 then .ok ⟨none, [chat "01!r" 1, chat "1!r" 0]⟩ else .error .forbidden

theorem lobby_pages_serve : numbered.Serves lobby lobbyPages := by
  have only (page : Nat) (request : MatrixBackfillRequest) (answer : MatrixBackfillPage)
      (answered : lobbyPages page request = .ok answer) :
      numbered.position lobby request.start = 2 ∧ answer = ⟨none, [chat "01!r" 1, chat "1!r" 0]⟩ := by
    rw [lobbyPages] at answered
    split at answered
    case isTrue pointed => exact ⟨pointed, (Except.ok.inj answered).symm⟩
    case isFalse => cases answered
  constructor
  · intro page request answer answered
    obtain ⟨pointed, built⟩ := only page request answer answered
    simp [pointed, built]
  · intro page request answer answered index event here
    obtain ⟨pointed, built⟩ := only page request answer answered
    rw [pointed]
    subst built
    cases index with
    | zero =>
      cases here
      exact delivers_said names.2.1
    | succ index =>
      cases index with
      | zero =>
        cases here
        exact delivers_said names.1
      | succ index => simp at here
  · intro page request answer answered finish named
    rw [(only page request answer answered).2] at named
    cases named
  · intro page request answer answered _
    obtain ⟨pointed, built⟩ := only page request answer answered
    simp [pointed, built]

end AgentRoom.MessageSync
