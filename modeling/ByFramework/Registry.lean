import ByFramework.RegistryCore

/-! The registry's reads and record updates reach no stream, no wait and no Task Group. -/

namespace ByFramework

open Async

theorem execField_ne_msgMapField (executionId messageId : String) :
    execField executionId ≠ msgMapField messageId := by
  intro same
  have heads := congrArg (fun text => text.toList.head?) same
  simp [execField, msgMapField] at heads

theorem execField_injective : Function.Injective execField := by
  intro left right same
  have letters := congrArg String.toList same
  simp only [execField, String.toList_append, List.append_cancel_left_eq] at letters
  exact String.toList_injective letters

theorem msgMapField_injective : Function.Injective msgMapField := by
  intro left right same
  have letters := congrArg String.toList same
  simp only [msgMapField, String.toList_append, List.append_cancel_left_eq] at letters
  exact String.toList_injective letters

variable {σ : Type} {inv : σ → Prop}

theorem isWorkerOnline_reading (workerId : String) :
    (isWorkerOnline workerId : Proc σ Bool).Uses reading inv :=
  uses_redis_bind rfl fun _ _ => Task.uses_pure _

theorem isWorkerOnline_background (workerId : String) :
    (isWorkerOnline workerId : Proc σ Bool).Uses background inv :=
  background_of_reading (isWorkerOnline_reading workerId)

theorem onlineOf_reading (workers : List String) :
    (onlineOf workers : Proc σ (List String)).Uses reading inv := by
  induction workers with
  | nil => exact Task.uses_pure _
  | cons workerId rest ih =>
      refine Task.uses_bind (isWorkerOnline_reading workerId) fun online => ?_
      exact Task.uses_bind ih fun others => Task.uses_pure _

theorem hasOnlineAgentType_reading (agentType : String) :
    (hasOnlineAgentType agentType : Proc σ (List String)).Uses reading inv :=
  uses_redis_bind rfl fun workers _ => onlineOf_reading workers

theorem hasOnlineAgentType_background (agentType : String) :
    (hasOnlineAgentType agentType : Proc σ (List String)).Uses background inv :=
  background_of_reading (hasOnlineAgentType_reading agentType)

theorem acquireScopedLock_background {key : Key} (quiet : key.isBackground = true)
    (token : String) (ttlSeconds : Nat) :
    (acquireScopedLock key token ttlSeconds : Proc σ Bool).Uses background inv :=
  uses_redis quiet

theorem releaseScopedLock_background {key : Key} (quiet : key.isBackground = true)
    (token : String) : (releaseScopedLock key token : Proc σ Bool).Uses background inv := by
  refine uses_redis_bind rfl fun raw _ => ?_
  split
  · exact Task.uses_pure _
  · split
    · exact uses_redis_bind quiet fun _ _ => Task.uses_pure _
    · split
      · exact Task.uses_pure _
      · exact uses_redis_bind quiet fun _ _ => Task.uses_pure _

theorem writeExecution_background (sessionId executionId : String) (record : ExecutionRecord) :
    (writeExecution sessionId executionId record : Proc σ PUnit).Uses background inv := by
  refine uses_pipeline (fun command listed => ?_) rfl
  simp only [List.mem_cons, List.not_mem_nil, or_false] at listed
  rcases listed with rfl | rfl <;> rfl

theorem writeMappedExecution_background (record : ExecutionRecord) :
    (writeMappedExecution record : Proc σ PUnit).Uses background inv := by
  refine uses_pipeline (fun command listed => ?_) rfl
  simp only [List.mem_cons, List.not_mem_nil, or_false] at listed
  rcases listed with rfl | rfl | rfl <;> rfl

def ExecutionRecord.initialized (execution : ExecutionRecord) (now : Int) : ExecutionRecord :=
  { execution with
    createdAt := now
    updatedAt := now
    startedAt := 0
    finishedAt := 0
    timeline := [(if execution.status = "" then AgentState.queued else execution.status, now)] }

theorem initializeExecution_background (record : ExecutionRecord) :
    (initializeExecution record : Proc σ PUnit).Uses background inv :=
  Task.uses_bind dateNow_background fun _ => writeMappedExecution_background _

theorem saveExecution_background (record : ExecutionRecord) :
    (saveExecution record : Proc σ PUnit).Uses background inv :=
  Task.uses_bind dateNow_background fun _ => writeMappedExecution_background _

theorem getExecution_reading (executionId sessionId : String) :
    (getExecution executionId sessionId : Proc σ _).Uses reading inv := by
  unfold getExecution
  split
  · exact Task.uses_pure _
  · refine uses_redis_bind rfl fun found _ => ?_
    split
    · exact Task.uses_pure _
    · exact Task.uses_pure _
    · exact Task.uses_pure _
    · exact Task.uses_throw _

theorem uses_getExecution_bind {contract : Contract effects} {β : Type}
    {executionId sessionId : String} {next : Option ExecutionRecord → Proc σ β}
    (reads : contract.allowed (.redis (.hget (.sessionRegistry sessionId) (execField executionId))))
    (absent : (next none).Uses contract inv)
    (present : ∀ record,
      contract.expected (.redis (.hget (.sessionRegistry sessionId) (execField executionId)))
        (.ok (some (.execution record))) → (next (some record)).Uses contract inv) :
    (getExecution executionId sessionId >>= next).Uses contract inv := by
  unfold getExecution
  split
  · rw [pure_bind]
    exact absent
  · rw [bind_assoc]
    refine uses_redis_bind reads fun found expected => ?_
    split
    · rw [pure_bind]
      exact present _ expected
    · rw [pure_bind]
      exact absent
    · rw [pure_bind]
      exact absent
    · exact fun memory held => held

theorem getExecutionByMessageId_reading (messageId sessionId : String) :
    (getExecutionByMessageId messageId sessionId : Proc σ _).Uses reading inv := by
  unfold getExecutionByMessageId
  split
  · exact Task.uses_pure _
  · refine uses_redis_bind rfl fun mapped _ => ?_
    dsimp only
    split
    · exact Task.uses_pure _
    · exact getExecution_reading _ _

theorem getExecutionByMessageId_background (messageId sessionId : String) :
    (getExecutionByMessageId messageId sessionId : Proc σ _).Uses background inv :=
  background_of_reading (getExecutionByMessageId_reading messageId sessionId)

theorem changeExecution_background (executionId sessionId : String)
    (change : Int → ExecutionRecord → ExecutionRecord) :
    (changeExecution executionId sessionId change : Proc σ PUnit).Uses background inv := by
  refine Task.uses_bind (background_of_reading (getExecution_reading _ _)) fun found => ?_
  cases found with
  | none => exact Task.uses_pure _
  | some current =>
      exact Task.uses_bind dateNow_background fun _ => writeExecution_background _ _ _

theorem getAllSessionExecutions_reading (sessionId : String) :
    (getAllSessionExecutions sessionId : Proc σ _).Uses reading inv :=
  uses_redis_bind rfl fun _ _ => Task.uses_pure _

theorem getAllSessionExecutions_background (sessionId : String) :
    (getAllSessionExecutions sessionId : Proc σ _).Uses background inv :=
  background_of_reading (getAllSessionExecutions_reading sessionId)

end ByFramework
