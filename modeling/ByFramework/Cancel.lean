import ByFramework.CancelCore
import ByFramework.Registry

/-! What the cancellation of a call tree sends: record updates, and commands to the workers. -/

namespace ByFramework

open Async

section

variable {σ : Type} {contract : Contract effects} {inv : σ → Prop}

theorem sendCommand_routed {command : GatewayCommand} {streamName : Key}
    (sends : contract.allowed (.redis (.xadd streamName (.command command)))) :
    (sendCommand command (some streamName) : Proc σ PUnit).Uses contract inv := by
  unfold sendCommand
  dsimp only
  split
  · rename_i unrouted
    simp at unrouted
  · exact uses_redis_bind sends fun _ _ => Task.uses_pure _

variable (quiet : ∀ op : Op, op.isBackground = true → contract.allowed op)
  (cancels : ∀ workerId command, contract.allowed
    (.redis (.xadd (.workerCtrlStream workerId) (.command (.cancelTask command)))))
include quiet cancels

theorem cancelExecution_uses (params : CancelTaskParams) (execution : ExecutionRecord) :
    (cancelExecution params execution : Proc σ PUnit).Uses contract inv := by
  refine Task.uses_bind (uses_of_background (changeExecution_background _ _ _) quiet) fun _ => ?_
  refine Task.uses_bind (uses_of_background (shortId_background _) quiet) fun _ => ?_
  refine Task.uses_bind (uses_of_background plainId_background quiet) fun _ => ?_
  split
  · dsimp only
    split
    · exact sendCommand_routed (cancels _ _)
    · exact Task.uses_pure _
  · exact Task.uses_throw _

theorem cancelTask_uses (fuel : Nat) (params : CancelTaskParams) :
    (cancelTask fuel params : Proc σ _).Uses contract inv := by
  refine Task.uses_bind (uses_of_background (getAllSessionExecutions_background _) quiet)
    fun allExecutions => ?_
  split
  · exact Task.uses_pure _
  · dsimp only
    split
    · exact Task.uses_pure _
    · split
      · exact Task.uses_pure _
      · refine Task.uses_bind (Task.uses_forEach _ fun execution _ =>
          uses_of_background (changeExecution_background _ _ _) quiet) fun _ => ?_
        split
        · exact Task.uses_pure _
        · exact Task.uses_bind (Task.uses_forEach _ fun execution _ =>
            cancelExecution_uses quiet cancels params execution) fun _ => Task.uses_pure _

end

end ByFramework
