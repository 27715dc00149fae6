import ByFramework.SweepEntry

/-! Triage leaves taking and giving back the lock of a shard, and its lists, to the pass. -/

namespace ByFramework

open Async

/-! ### What triage leaves to the pass -/

def tendingCommand : RedisCommand → Bool
  | .get (.waitSweepLock _) | .set (.waitSweepLock _) _ _ _ => true
  | .del (.waitSweepLock _) | .expire (.waitSweepLock _) _ => true
  | .zrangebyscore (.waitIndex _) _ _ _ | .zremrangebyscore (.waitIndex _) _ _ => true
  | _ => false

def Op.tends : Op → Bool
  | .redis command => tendingCommand command
  | _ => false

def untending : Contract effects := .only fun op => op.tends = false

section

variable {σ : Type} {inv : σ → Prop}

theorem plainId_untending : (plainId : Proc σ String).Uses untending inv :=
  Task.uses_bind (Task.uses_await rfl) fun _ => Task.uses_pure _

theorem shortId_untending (label : String) : (shortId label : Proc σ String).Uses untending inv :=
  Task.uses_bind (Task.uses_await rfl) fun _ => Task.uses_pure _

theorem isWorkerOnline_untending (workerId : String) :
    (isWorkerOnline workerId : Proc σ Bool).Uses untending inv :=
  uses_redis_bind rfl fun _ _ => Task.uses_pure _

theorem getExecution_untending (executionId sessionId : String) :
    (getExecution executionId sessionId : Proc σ _).Uses untending inv := by
  unfold getExecution
  split
  · exact Task.uses_pure _
  · refine uses_redis_bind rfl fun found _ => ?_
    split
    · exact Task.uses_pure _
    · exact Task.uses_pure _
    · exact Task.uses_pure _
    · exact Task.uses_throw _

theorem getExecutionByMessageId_untending (messageId sessionId : String) :
    (getExecutionByMessageId messageId sessionId : Proc σ _).Uses untending inv := by
  unfold getExecutionByMessageId
  split
  · exact Task.uses_pure _
  · refine uses_redis_bind rfl fun mapped _ => ?_
    dsimp only
    split
    · exact Task.uses_pure _
    · exact getExecution_untending _ _

theorem changeExecution_untending (executionId sessionId : String)
    (change : Int → ExecutionRecord → ExecutionRecord) :
    (changeExecution executionId sessionId change : Proc σ PUnit).Uses untending inv := by
  refine Task.uses_bind (getExecution_untending _ _) fun found => ?_
  cases found with
  | none => exact Task.uses_pure _
  | some current =>
      refine Task.uses_bind (Task.uses_await rfl) fun now => uses_pipeline ?_ rfl
      intro command listed
      simp only [List.mem_cons, List.not_mem_nil, or_false] at listed
      rcases listed with rfl | rfl <;> rfl

theorem cancelExecution_untending (params : CancelTaskParams) (execution : ExecutionRecord) :
    (cancelExecution params execution : Proc σ PUnit).Uses untending inv := by
  refine Task.uses_bind (changeExecution_untending _ _ _) fun _ => ?_
  refine Task.uses_bind (shortId_untending _) fun _ => ?_
  refine Task.uses_bind plainId_untending fun _ => ?_
  split
  · dsimp only
    split
    · exact sendCommand_routed rfl
    · exact Task.uses_pure _
  · exact Task.uses_throw _

theorem cancelTask_untending (fuel : Nat) (params : CancelTaskParams) :
    (cancelTask fuel params : Proc σ _).Uses untending inv := by
  have listed (sessionId : String) :
      (getAllSessionExecutions sessionId : Proc σ _).Uses untending inv :=
    uses_redis_bind rfl fun _ _ => Task.uses_pure _
  refine Task.uses_bind (listed _) fun allExecutions => ?_
  split
  · exact Task.uses_pure _
  · dsimp only
    split
    · exact Task.uses_pure _
    · split
      · exact Task.uses_pure _
      · refine Task.uses_bind (Task.uses_forEach _ fun execution _ =>
          changeExecution_untending _ _ _) fun _ => ?_
        split
        · exact Task.uses_pure _
        · exact Task.uses_bind (Task.uses_forEach _ fun execution _ =>
            cancelExecution_untending params execution) fun _ => Task.uses_pure _

variable {options : SweeperOptions} {due : DueEntry}

theorem extendDeadline_untending :
    (extendDeadline due : Proc σ PUnit).Uses untending inv := by
  refine Task.uses_bind (Task.uses_failSoft (uses_redis_bind rfl fun _ _ => Task.uses_pure _))
    fun _ => ?_
  exact Task.uses_bind (Task.uses_await rfl) fun now => uses_redis_bind rfl fun _ _ =>
    Task.uses_pure _

theorem emitReply_untending (caller : ExecutionRecord) (params : StandInParams) :
    (emitReply options due caller params : Proc σ Bool).Uses untending inv := by
  unfold emitReply
  dsimp only
  split
  · exact Task.uses_bind extendDeadline_untending fun _ => Task.uses_pure _
  · refine uses_standInReply_bind rfl fun traceId reply _ => ?_
    exact uses_redis_bind rfl fun _ _ =>
      Task.uses_bind extendDeadline_untending fun _ => Task.uses_pure _

theorem synthesizeFailure_untending (caller : ExecutionRecord) (child : Option ExecutionRecord)
    (errorCode message status : String) (outcome : SweepOutcome) :
    (synthesizeFailure options due caller child errorCode message status outcome :
      Proc σ _).Uses untending inv :=
  Task.uses_bind (emitReply_untending _ _) fun _ => Task.uses_pure _

theorem recoverFinishedChild_untending (caller child : ExecutionRecord) :
    (recoverFinishedChild options due caller child : Proc σ _).Uses untending inv := by
  have loaded : (loadStoredResult due.entry.childMessageId : Proc σ _).Uses untending inv := by
    refine uses_redis_bind rfl fun found _ => ?_
    split
    · exact Task.uses_pure _
    · exact Task.uses_pure _
  refine Task.uses_bind loaded fun found => ?_
  cases found with
  | none => exact synthesizeFailure_untending _ _ _ _ _ _
  | some stored => exact Task.uses_bind (emitReply_untending _ _) fun _ => Task.uses_pure _

theorem cancelTimedOutChild_untending (child : ExecutionRecord) :
    (cancelTimedOutChild options due child : Proc σ Bool).Uses untending inv := by
  unfold cancelTimedOutChild
  split
  · exact Task.uses_pure _
  · exact Task.uses_tryCatch (Task.uses_bind (cancelTask_untending _ _) fun _ => Task.uses_pure _)
      fun _ => Task.uses_pure _

theorem triageChild_untending (caller : ExecutionRecord) :
    (triageChild options due caller : Proc σ _).Uses untending inv := by
  have limits (child : ExecutionRecord) :
      (renewalCeilingMs options due child : Proc σ Int).Uses untending inv :=
    Task.uses_bind (Task.uses_tryCatch (uses_redis rfl) fun _ => Task.uses_pure _)
      fun _ => Task.uses_pure _
  refine Task.uses_bind (getExecutionByMessageId_untending _ _) fun found => ?_
  cases found with
  | none => exact synthesizeFailure_untending _ _ _ _ _ _
  | some child =>
      dsimp only
      split
      · exact recoverFinishedChild_untending _ _
      split
      · exact Task.uses_bind extendDeadline_untending fun _ => Task.uses_pure _
      split
      · exact synthesizeFailure_untending _ _ _ _ _ _
      refine Task.uses_bind (isWorkerOnline_untending _) fun online => ?_
      split
      · refine Task.uses_bind (limits child) fun limitMs => ?_
        refine Task.uses_bind (Task.uses_await rfl) fun now => ?_
        split
        · exact Task.uses_bind extendDeadline_untending fun _ => Task.uses_pure _
        · refine Task.uses_bind (synthesizeFailure_untending _ _ _ _ _ _) fun outcome => ?_
          exact Task.uses_bind (cancelTimedOutChild_untending _) fun _ => Task.uses_pure _
      · exact synthesizeFailure_untending _ _ _ _ _ _

theorem dropEntry_untending (outcome : SweepOutcome) :
    (dropEntry due outcome : Proc σ _).Uses untending inv :=
  uses_redis_bind rfl fun _ _ => Task.uses_pure _

theorem resolveUnsuspendedCaller_untending (caller : ExecutionRecord) :
    (resolveUnsuspendedCaller due caller : Proc σ _).Uses untending inv := by
  have decides : ∀ lost : Bool, (if lost then dropEntry due .callerLost else do
      extendDeadline due
      pure .callerNotSuspended : Proc σ _).Uses untending inv := by
    intro lost
    split
    · exact dropEntry_untending _
    · exact Task.uses_bind extendDeadline_untending fun _ => Task.uses_pure _
  unfold resolveUnsuspendedCaller
  split
  · exact Task.uses_bind (Task.uses_pure _) decides
  · refine Task.uses_bind (isWorkerOnline_untending _) fun online => ?_
    exact Task.uses_bind (Task.uses_pure _) decides

theorem groupBlocksCompensation_untending :
    (groupBlocksCompensation due : Proc σ _).Uses untending inv := by
  have drops (outcome : SweepOutcome) : (do
      let outcome ← dropEntry due outcome
      pure (some outcome) : Proc σ _).Uses untending inv :=
    Task.uses_bind (dropEntry_untending _) fun _ => Task.uses_pure _
  refine uses_redis_bind rfl fun total _ => ?_
  split
  · exact drops _
  · refine uses_redis_bind rfl fun aborted _ => ?_
    split
    · exact drops _
    · refine uses_redis_bind rfl fun recorded _ => ?_
      split
      · exact drops _
      · exact Task.uses_pure _

theorem resolveDecoded_untending : (resolveDecoded options due : Proc σ _).Uses untending inv := by
  refine Task.uses_bind (getExecutionByMessageId_untending _ _) fun found => ?_
  cases found with
  | none => exact dropEntry_untending _
  | some caller =>
      dsimp only
      split
      · exact dropEntry_untending _
      split
      · exact resolveUnsuspendedCaller_untending _
      split
      · exact Task.uses_pure _
      split
      · rw [pure_bind]
        exact triageChild_untending _
      · refine Task.uses_bind groupBlocksCompensation_untending fun blocked => ?_
        cases blocked with
        | none => exact triageChild_untending _
        | some outcome => exact Task.uses_pure _

theorem resolveEach_untending (indexKey : Key) (batch : List (String × Int))
    (outcomes : Outcomes) :
    (resolveEach options indexKey batch outcomes : Proc σ _).Uses untending inv := by
  induction batch generalizing outcomes with
  | nil => exact Task.uses_pure _
  | cons entry rest ih =>
      refine Task.uses_bind (Task.uses_tryCatch ?_ fun _ => Task.uses_pure _) fun _ => ih _
      unfold resolveEntry
      split
      · exact uses_redis_bind rfl fun _ _ => Task.uses_pure _
      · exact resolveDecoded_untending

end

end ByFramework
