import ByFramework.Cancel
import ByFramework.WaitReply
import ByFramework.WaitSweeperCore

/-! What the triage of one due entry sends: its stand-in, its renewal or removal, a cancellation. -/

namespace ByFramework

open Async

structure EntryPermits (contract : Contract effects) (due : DueEntry) : Prop where
  quiet : ∀ op : Op, op.isBackground = true → contract.allowed op
  reads : ∀ key field, contract.allowed (.redis (.hget key field))
  removes : ∀ key member, contract.allowed (.redis (.zrem key member))
  renews : ∀ rank, contract.allowed (.redis (.zadd due.indexKey due.member rank))
  cancels : ∀ workerId command, contract.allowed
    (.redis (.xadd (.workerCtrlStream workerId) (.command (.cancelTask command))))
  answers : ∀ agentType reply, reply.header.answers = due.entry → contract.allowed
    (.redis (.xadd (.ctrlStream agentType) (.command (.resume reply))))

section

variable {σ : Type} {inv : σ → Prop}

theorem loadStoredResult_background (childMessageId : String) :
    (loadStoredResult childMessageId : Proc σ _).Uses background inv := by
  refine uses_redis_bind rfl fun found _ => ?_
  split
  · exact Task.uses_pure _
  · exact Task.uses_pure _

theorem renewalCeilingMs_background (options : SweeperOptions) (due : DueEntry)
    (child : ExecutionRecord) :
    (renewalCeilingMs options due child : Proc σ Int).Uses background inv :=
  Task.uses_bind (Task.uses_tryCatch (uses_redis rfl) fun _ => Task.uses_pure _)
    fun _ => Task.uses_pure _

end

section

variable {σ : Type} {contract : Contract effects} {options : SweeperOptions} {due : DueEntry}
  {inv : σ → Prop} (permits : EntryPermits contract due)
include permits

theorem EntryPermits.of_background {α : Type} {task : Proc σ α} (uses : task.Uses background inv) :
    task.Uses contract inv :=
  uses_of_background uses permits.quiet

theorem extendDeadline_entry : (extendDeadline due : Proc σ PUnit).Uses contract inv := by
  refine Task.uses_bind (Task.uses_failSoft (uses_redis_bind (permits.quiet _ rfl)
    fun _ _ => Task.uses_pure _)) fun _ => ?_
  refine Task.uses_bind (permits.of_background dateNow_background) fun now => ?_
  exact uses_redis_bind (permits.renews _) fun _ _ => Task.uses_pure _

theorem emitReply_entry (caller : ExecutionRecord) (params : StandInParams) :
    (emitReply options due caller params : Proc σ Bool).Uses contract inv := by
  unfold emitReply
  dsimp only
  split
  · exact Task.uses_bind (extendDeadline_entry permits) fun _ => Task.uses_pure _
  · refine uses_standInReply_bind (permits.quiet _ rfl) fun traceId reply named => ?_
    have answers : reply.header.answers = due.entry := by
      rw [named]
      rfl
    refine uses_redis_bind (permits.answers _ reply answers) fun _ _ => ?_
    exact Task.uses_bind (extendDeadline_entry permits) fun _ => Task.uses_pure _

theorem synthesizeFailure_entry (caller : ExecutionRecord) (child : Option ExecutionRecord)
    (errorCode message status : String) (outcome : SweepOutcome) :
    (synthesizeFailure options due caller child errorCode message status outcome :
      Proc σ _).Uses contract inv :=
  Task.uses_bind (emitReply_entry permits _ _) fun _ => Task.uses_pure _

theorem recoverFinishedChild_entry (caller child : ExecutionRecord) :
    (recoverFinishedChild options due caller child : Proc σ _).Uses contract inv := by
  refine Task.uses_bind (permits.of_background (loadStoredResult_background _)) fun found => ?_
  cases found with
  | none => exact synthesizeFailure_entry permits _ _ _ _ _ _
  | some stored => exact Task.uses_bind (emitReply_entry permits _ _) fun _ => Task.uses_pure _

theorem cancelTimedOutChild_entry (child : ExecutionRecord) :
    (cancelTimedOutChild options due child : Proc σ Bool).Uses contract inv := by
  unfold cancelTimedOutChild
  split
  · exact Task.uses_pure _
  · have cancelled (params : CancelTaskParams) :
        (cancelTask options.searchFuel params : Proc σ _).Uses contract inv :=
      cancelTask_uses permits.quiet permits.cancels _ _
    exact Task.uses_tryCatch (Task.uses_bind (cancelled _) fun _ => Task.uses_pure _)
      fun _ => Task.uses_pure _

theorem triageChild_entry (caller : ExecutionRecord) :
    (triageChild options due caller : Proc σ _).Uses contract inv := by
  refine Task.uses_bind (permits.of_background (getExecutionByMessageId_background _ _))
    fun found => ?_
  cases found with
  | none => exact synthesizeFailure_entry permits _ _ _ _ _ _
  | some child =>
      dsimp only
      split
      · exact recoverFinishedChild_entry permits _ _
      split
      · exact Task.uses_bind (extendDeadline_entry permits) fun _ => Task.uses_pure _
      split
      · exact synthesizeFailure_entry permits _ _ _ _ _ _
      refine Task.uses_bind (permits.of_background (isWorkerOnline_background _)) fun online => ?_
      split
      · refine Task.uses_bind (permits.of_background (renewalCeilingMs_background _ _ _))
          fun limitMs => ?_
        refine Task.uses_bind (permits.of_background dateNow_background) fun now => ?_
        split
        · exact Task.uses_bind (extendDeadline_entry permits) fun _ => Task.uses_pure _
        · refine Task.uses_bind (synthesizeFailure_entry permits _ _ _ _ _ _) fun outcome => ?_
          exact Task.uses_bind (cancelTimedOutChild_entry permits _) fun _ => Task.uses_pure _
      · exact synthesizeFailure_entry permits _ _ _ _ _ _

theorem dropEntry_entry (outcome : SweepOutcome) :
    (dropEntry due outcome : Proc σ _).Uses contract inv :=
  uses_redis_bind (permits.removes _ _) fun _ _ => Task.uses_pure _

theorem resolveUnsuspendedCaller_entry (caller : ExecutionRecord) :
    (resolveUnsuspendedCaller due caller : Proc σ _).Uses contract inv := by
  have decides : ∀ lost : Bool, (if lost then dropEntry due .callerLost else do
      extendDeadline due
      pure .callerNotSuspended : Proc σ _).Uses contract inv := by
    intro lost
    split
    · exact dropEntry_entry permits _
    · exact Task.uses_bind (extendDeadline_entry permits) fun _ => Task.uses_pure _
  unfold resolveUnsuspendedCaller
  split
  · exact Task.uses_bind (Task.uses_pure _) decides
  · refine Task.uses_bind (permits.of_background (isWorkerOnline_background _)) fun online => ?_
    exact Task.uses_bind (Task.uses_pure _) decides

theorem groupBlocksCompensation_entry :
    (groupBlocksCompensation due : Proc σ _).Uses contract inv := by
  refine uses_redis_bind (permits.reads _ _) fun total _ => ?_
  split
  · exact Task.uses_bind (dropEntry_entry permits _) fun _ => Task.uses_pure _
  · refine uses_redis_bind (permits.reads _ _) fun aborted _ => ?_
    split
    · exact Task.uses_bind (dropEntry_entry permits _) fun _ => Task.uses_pure _
    · refine uses_redis_bind (permits.reads _ _) fun recorded _ => ?_
      split
      · exact Task.uses_bind (dropEntry_entry permits _) fun _ => Task.uses_pure _
      · exact Task.uses_pure _

theorem resolveDecoded_entry : (resolveDecoded options due : Proc σ _).Uses contract inv := by
  refine Task.uses_bind (permits.of_background (getExecutionByMessageId_background _ _))
    fun found => ?_
  cases found with
  | none => exact dropEntry_entry permits _
  | some caller =>
      dsimp only
      split
      · exact dropEntry_entry permits _
      split
      · exact resolveUnsuspendedCaller_entry permits _
      split
      · exact Task.uses_pure _
      split
      · rw [pure_bind]
        exact triageChild_entry permits _
      · refine Task.uses_bind (groupBlocksCompensation_entry permits) fun blocked => ?_
        cases blocked with
        | none => exact triageChild_entry permits _
        | some outcome => exact Task.uses_pure _

end

end ByFramework
