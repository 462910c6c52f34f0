import AgentRoom.Library.Fallible
import AgentRoom.Library.Method
import AgentRoom.Moderation.Action

namespace AgentRoom.Moderation.ModerationAction

open Library

def validateText (field value : String) (maximumCharacters : Nat) (allowEmpty : Bool) : DomainResult Unit :=
  if (allowEmpty = false ∧ value.toList.all isWhitespaceChar = true) ∨ maximumCharacters < value.toList.length ∨
      value.toList.any isControlChar = true then .error (.validation field "文本为空、包含控制字符或超过长度上限")
  else .ok ()

def statusAgrees (action : ModerationAction) : Bool :=
  match action.status with
  | .pending | .applied => action.failureCode.isNone && action.reversedAt.isNone
  | .failed => action.failureCode.isSome && action.reversedAt.isNone
  | .reversed => action.failureCode.isNone && action.reversedAt.isSome

def restore (fields : ModerationAction) : DomainResult ModerationAction := do
  let _ ← reserve fields.id fields.caseId fields.actorPrincipalId fields.kind fields.target fields.reason fields.startsAt
    fields.expiresAt
  ensure (.invariantViolation "moderation_action" "动作状态必须与失败码和撤销时间一致")
    (fields.statusAgrees = true ∧ fields.reversedAt.all (fields.startsAt ≤ ·) = true)
  return fields

inductive Call where
  | markApplied
  | markFailed (failureCode : String)
  | reverse (reversedAt : UtcMillis)
  | expire (expiredAt : UtcMillis)

-- The calls on the record itself, which answer whether they changed it.
def perform : Call → Method DomainError ModerationAction Bool
  | .markApplied => do
    let action ← get
    match action.status with
    | .pending =>
      set { action with status := .applied }
      return true
    | .applied => return false
    | .failed | .reversed => throw (.invariantViolation "moderation_action" "失败或已撤销的动作不能标记为已应用")
  | .markFailed failureCode => do
    lift (validateText "moderation_action_failure_code" failureCode 128 false)
    let action ← get
    match action.status with
    | .pending =>
      set { action with status := .failed, failureCode := some failureCode }
      return true
    | .failed =>
      if action.failureCode = some failureCode then return false
      else throw (.invariantViolation "moderation_action" "失败动作不能改写失败原因")
    | .applied | .reversed => throw (.invariantViolation "moderation_action" "已应用或已撤销的动作不能标记为失败")
  | .reverse reversedAt => do
    let action ← get
    match action.status with
    | .applied =>
      if action.startsAt ≤ reversedAt then
        set { action with status := .reversed, reversedAt := some reversedAt }
        return true
      else throw (.validation "moderation_action_reversed_at" "撤销时间不能早于动作开始时间")
    | .reversed => return false
    | .pending | .failed => throw (.invariantViolation "moderation_action" "只有已应用动作可以撤销")
  | .expire expiredAt => do
    let action ← get
    match action.status with
    | .applied =>
      if action.isDueAt expiredAt then
        set { action with status := .reversed, reversedAt := some expiredAt }
        return true
      else throw (.validation "moderation_action_expires_at" "没有期限或者还没到期的动作不能到期解除")
    | .reversed => return false
    | .pending | .failed => throw (.invariantViolation "moderation_action" "只有已生效的动作可以到期解除")

inductive Made : ModerationAction → Prop where
  | reserved (id : ModerationActionId) (caseId : Option ModerationCaseId) (actorPrincipalId : PrincipalId)
      (kind : ModerationActionKind) (target : ModerationTarget) (reason : ModerationReason) (startsAt : UtcMillis)
      (expiresAt : Option UtcMillis) (action : ModerationAction)
      (made : reserve id caseId actorPrincipalId kind target reason startsAt expiresAt = .ok action) : Made action
  | restored (fields action : ModerationAction) (made : fields.restore = .ok action) : Made action

structure Stored (action : ModerationAction) : Prop where
  target : action.target.kind = action.kind.targetKind
  ends : action.expiresAt.any (· ≤ action.startsAt) = false
  agrees : action.statusAgrees = true
  reversed : action.reversedAt.all (action.startsAt ≤ ·) = true

theorem restore_iff (fields action : ModerationAction) : fields.restore = .ok action ↔ Stored fields ∧ fields = action := by
  simp only [restore, bind_ok, ensure_ok]
  constructor
  · rintro ⟨reservation, reserved, _, ⟨agrees, reversed⟩, ⟨⟩⟩
    unfold reserve at reserved
    split at reserved
    · cases reserved
    · split at reserved
      · cases reserved
      · rename_i target ends
        exact ⟨⟨not_not.mp target, Bool.not_eq_true _ ▸ ends, agrees, reversed⟩, rfl⟩
  · rintro ⟨⟨target, ends, agrees, reversed⟩, rfl⟩
    exact ⟨_, by rw [reserve, if_neg (not_not.mpr target), ends]; rfl, (), ⟨agrees, reversed⟩, rfl⟩

theorem made_stored (made : Made action) : Stored action := by
  cases made with
  | reserved _ _ _ _ _ _ _ _ _ made =>
    unfold reserve at made
    split at made
    · cases made
    · split at made
      · cases made
      · rename_i target ends
        cases made
        exact ⟨not_not.mp target, Bool.not_eq_true _ ▸ ends, rfl, rfl⟩
  | restored fields _ made =>
    obtain ⟨stored, rfl⟩ := (restore_iff ..).mp made
    exact stored

-- Everything that a call can do to the record.
inductive Moves (action : ModerationAction) : ModerationAction → Prop where
  | stays : Moves action action
  | applied (pending : action.status = .pending) : Moves action { action with status := .applied }
  | failed (pending : action.status = .pending) (failureCode : String) :
      Moves action { action with status := .failed, failureCode := some failureCode }
  | reversed (applied : action.status = .applied) (moment : UtcMillis)
      (late : action.startsAt ≤ moment ∨ action.isDueAt moment = true) :
      Moves action { action with status := .reversed, reversedAt := some moment }

theorem perform_yields (action : ModerationAction) (call : Call) :
    Yields (perform call) action fun _ next => Moves action next := by
  cases call with
  | markApplied =>
    refine yields_get ?_
    split
    · exact .applied ‹_›
    · exact yields_pure .stays
    · exact yields_throw
    · exact yields_throw
  | markFailed failureCode =>
    refine yields_lift fun _ _ => yields_get ?_
    split
    · exact .failed ‹_› failureCode
    · exact yields_ite (fun _ => yields_pure .stays) fun _ => yields_throw
    · exact yields_throw
    · exact yields_throw
  | reverse reversedAt =>
    refine yields_get ?_
    split
    · exact yields_ite (fun started => .reversed ‹_› reversedAt (.inl started)) fun _ => yields_throw
    · exact yields_pure .stays
    · exact yields_throw
    · exact yields_throw
  | expire expiredAt =>
    refine yields_get ?_
    split
    · exact yields_ite (fun due => .reversed ‹_› expiredAt (.inr due)) fun _ => yields_throw
    · exact yields_pure .stays
    · exact yields_throw
    · exact yields_throw

theorem moves_stored (stored : Stored action) (moves : Moves action next) : Stored next := by
  have agrees := stored.agrees
  unfold statusAgrees at agrees
  cases moves with
  | stays => exact stored
  | applied pending => exact { stored with agrees := by simpa [statusAgrees, pending] using agrees }
  | failed pending failureCode => exact { stored with agrees := by simp_all [statusAgrees] }
  | reversed applied moment late =>
    refine { stored with agrees := by simp_all [statusAgrees], reversed := ?_ }
    have started : action.startsAt ≤ moment := by
      rcases late with started | due
      · exact started
      · obtain ⟨_, ending, held, past⟩ : _ ∧ ∃ ending, action.expiresAt = some ending ∧ ending ≤ moment := by
          simpa [isDueAt, Option.any_eq_true] using due
        have after : ¬ ending ≤ action.startsAt := by simpa [held] using stored.ends
        exact Nat.le_trans (Nat.le_of_not_le after) past
    simpa using started

def Ended (action : ModerationAction) : Prop := action.status = .reversed ∨ action.status = .failed

theorem moves_ended (ended : Ended action) (moves : Moves action next) : next = action := by
  cases moves with
  | stays => rfl
  | applied pending | failed pending => simp [Ended, pending] at ended
  | reversed applied => simp [Ended, applied] at ended

theorem after_moves (action : ModerationAction) (call : Call) : Moves action (after (perform call) action) :=
  after_of_yields (perform_yields action call) .stays fun _ _ moves => moves

theorem ended_stays (ended : Ended action) (calls : List Call) : runAll perform action calls = action := by
  refine run_all_invariant perform (· = action) ?_ calls action rfl
  rintro _ call rfl
  exact moves_ended ended (after_moves _ call)

theorem moderation_action_life (action : ModerationAction) (made : Made action) (calls : List Call) :
    (runAll perform action calls).restore = .ok (runAll perform action calls) ∧
      (Ended (runAll perform action calls) → ∀ later, runAll perform (runAll perform action calls) later = runAll perform action calls) ∧
      (∀ moment, (runAll perform action calls).reversedAt = some moment → ∀ later,
        (runAll perform (runAll perform action calls) later).reversedAt = some moment) ∧
      ((runAll perform action calls).status = .applied →
        ∀ now, (runAll perform action calls).isEffectiveAt now ≠ (runAll perform action calls).isDueAt now) ∧
      ∀ call failure next, (perform call).run (runAll perform action calls) = .error failure next →
        next = runAll perform action calls := by
  have stored : Stored (runAll perform action calls) := run_all_invariant perform Stored
    (fun state call stored => moves_stored stored (after_moves state call)) calls action (made_stored made)
  refine ⟨(restore_iff _ _).mpr ⟨stored, rfl⟩, ended_stays, ?_, ?_, fun call _ _ => yields_error (perform_yields _ call)⟩
  · intro moment reversed later
    have ended : Ended (runAll perform action calls) := by
      have agrees := stored.agrees
      unfold statusAgrees at agrees
      split at agrees <;> simp_all [Ended]
    rw [ended_stays ended later]
    exact reversed
  · intro applied now
    simp only [isEffectiveAt, isDueAt, applied]
    cases (runAll perform action calls).expiresAt with
    | none => simp
    | some ending => by_cases before : now < ending <;> simp [before, ← UtcMillis.not_lt_iff]

def timedMute : ModerationAction := ⟨⟨1⟩, none, ⟨1⟩, .mute, ⟨.principal, "p-2"⟩, .spam, 10, some 20, .pending, none, none⟩

theorem timed_mute_expires : ∃ ended, (runAll perform timedMute [.markApplied, .expire 20, .reverse 30]).restore = .ok ended ∧
    ended.reversedAt = some 20 :=
  ⟨_, (moderation_action_life timedMute (.restored timedMute timedMute rfl) [.markApplied, .expire 20, .reverse 30]).1, rfl⟩

end AgentRoom.Moderation.ModerationAction
