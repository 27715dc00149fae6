import ByFramework.Worker
import ByFramework.RunnerCore

/-! What the processing of one message may send: its handling, its gate, and its acknowledgement. -/

namespace ByFramework

open Async

def Op.ofMessage (groupName : String) (streamName : Key) (msgId : Nat) : Op → Bool
  | .redis (.xack key name entry) => key = streamName && name = groupName && entry = msgId
  | .redis (.zrem (.waitIndex _) _) | .redis (.existsKey (.waitConsumed _ _)) => true
  | .redis (.set (.waitConsumed _ _) _ false _) => true
  | .getSessionHistory _ => true
  | .process _ (.handOver _ _ _) | .process _ (.reach (.controlMessage _ _)) => false
  | .process _ .startLoop | .process _ (.evaluateHealth _ _) => false
  | .process _ _ => true
  | op => op.ofWorker

theorem Op.ofMessage_of_worker {groupName : String} {streamName : Key} {msgId : Nat} {op : Op}
    (handled : op.ofWorker = true) : op.ofMessage groupName streamName msgId = true := by
  unfold Op.ofMessage
  split
  · simp [Op.ofWorker, workerCommand, contextCommand, backgroundCommand] at handled
  all_goals first | rfl | exact handled

theorem Op.ofMessage_of_marks {groupName : String} {streamName : Key} {msgId : Nat} {op : Op}
    (marks : op.marksPhase = true) : op.ofMessage groupName streamName msgId = true := by
  unfold Op.marksPhase at marks
  split at marks
  · rfl
  · rfl
  · cases marks

section

variable {σ : Type} {contract : Contract effects} {inv : σ → Prop} {groupName : String}
  {streamName : Key} {msgId : Nat}
  (permits : ∀ op : Op, op.ofMessage groupName streamName msgId = true → contract.allowed op)
include permits

theorem message_of_background {α : Type} {task : Proc σ α} (uses : task.Uses background inv) :
    task.Uses contract inv :=
  worker_of_background (fun op handled => permits op (Op.ofMessage_of_worker handled)) uses

omit permits in
theorem xack_message
    (permits : contract.allowed (.redis (.xack streamName groupName msgId))) :
    (xack streamName groupName msgId : Proc σ PUnit).Uses contract inv :=
  uses_redis_bind permits fun _ _ => Task.uses_pure _

theorem changeExecution_message (executionId sessionId : String)
    (change : Int → ExecutionRecord → ExecutionRecord) :
    (changeExecution executionId sessionId change : Proc σ PUnit).Uses contract inv :=
  message_of_background permits (changeExecution_background _ _ _)

theorem handleCancelTask_message (workerId : String) (command : CancelTaskCommand) :
    (handleCancelTask workerId command : Proc σ PUnit).Uses contract inv := by
  refine Task.uses_bind ?_ fun found => ?_
  · unfold cancelledExecution
    split
    · exact Task.uses_bind (Task.uses_await (permits _ rfl)) fun _ => Task.uses_pure _
    · exact Task.uses_pure _
  · cases found with
    | none => exact Task.uses_pure _
    | some executionId =>
        refine Task.uses_bind (Task.uses_await (permits _ rfl)) fun running => ?_
        refine Task.uses_bind (changeExecution_message permits _ _ _) fun _ => ?_
        cases running with
        | none => exact Task.uses_pure _
        | some controller => exact Task.uses_await (permits _ rfl)

theorem obeyControlMessage_message (workerId : String) (command : GatewayCommand) :
    (obeyControlMessage workerId command : Proc σ PUnit).Uses contract inv := by
  unfold obeyControlMessage
  split
  · exact Task.uses_await (permits _ rfl)
  · exact Task.uses_await (permits _ rfl)
  · exact Task.uses_await (permits _ rfl)
  · exact handleCancelTask_message permits _ _
  · exact Task.uses_pure _

theorem xack_permitted : contract.allowed (.redis (.xack streamName groupName msgId)) :=
  permits _ (by simp [Op.ofMessage])

theorem handleControlMessage_message (workerId : String) (command : GatewayCommand) :
    (handleControlMessage workerId groupName streamName msgId command : Proc σ PUnit).Uses
      contract inv :=
  Task.uses_withFinally (obeyControlMessage_message permits _ _)
    (xack_message (xack_permitted permits))

end

/-! ### The gate of a reply -/

section

variable {σ : Type} {contract : Contract effects} {inv : σ → Prop} {groupName : String}
  {streamName : Key} {msgId : Nat}
  (gate : ∀ op : Op, op.ofMessage groupName streamName msgId = true →
    op.writesRegistry = false → op.sendsReply = false → op.marksPhase = false → contract.allowed op)
include gate

theorem tryCandidates_message (sessionId : String) (members : List String) :
    (tryCandidates sessionId members : Proc σ _).Uses contract inv := by
  induction members with
  | nil => exact Task.uses_pure _
  | cons member rest ih =>
      refine uses_redis_bind (gate _ rfl rfl rfl rfl) fun removed _ => ?_
      split
      · refine Task.uses_bind (Task.uses_failSoft ?_) fun _ => Task.uses_pure _
        exact uses_redis_bind (gate _ rfl rfl rfl rfl) fun _ _ => Task.uses_pure _
      · refine uses_redis_bind (gate _ rfl rfl rfl rfl) fun consumed _ => ?_
        split
        · exact Task.uses_pure _
        · exact ih

theorem consumeWaitEntry_message (header : MessageHeader) :
    (consumeWaitEntry header : Proc σ _).Uses contract inv :=
  Task.uses_tryCatch (tryCandidates_message gate _ _) fun _ => Task.uses_pure _

theorem emitOrphanedReply_message (command : GatewayCommand) (workerId reason : String) :
    (emitOrphanedReply command workerId reason : Proc σ PUnit).Uses contract inv :=
  Task.uses_failSoft (emitEvent_handler (fun op called files =>
    gate op (Op.ofMessage_of_worker (Op.ofWorker_of_handler called)) files
      (Op.sendsReply_of_handler called) (Op.unmarked_of_handler called)) _)

theorem admitReply_message (worker : GatewayWorker) (resume : ResumeCommand) :
    (GatewayWorker.admitReply worker groupName streamName msgId resume : Proc σ Bool).Uses
      contract inv := by
  refine Task.uses_bind (consumeWaitEntry_message gate _) fun decision => ?_
  split
  · exact Task.uses_pure _
  · refine Task.uses_bind (emitOrphanedReply_message gate _ _ _) fun _ => ?_
    refine Task.uses_bind (xack_message ?_) fun _ => Task.uses_pure _
    exact gate _ (by simp [Op.ofMessage]) rfl rfl rfl

end

namespace GatewayWorker

section

variable {σ : Type} {contract : Contract effects} {inv : σ → Prop} {groupName : String}
  {streamName : Key} {msgId : Nat} (worker : GatewayWorker)
  (permits : ∀ op : Op, op.ofMessage groupName streamName msgId = true → contract.allowed op)
include permits

theorem recordRunning_message (command : GatewayCommand) (executionId : String)
    (existing : Option ExecutionRecord) :
    (recordRunning worker streamName msgId command executionId existing : Proc σ PUnit).Uses
      contract inv := by
  cases existing with
  | some record => exact changeExecution_message permits _ _ _
  | none =>
      refine Task.uses_bind (message_of_background permits dateNow_background) fun now => ?_
      exact message_of_background permits (saveExecution_background _)

theorem handleMessage_message (command : GatewayCommand) (options : HandleMessageOptions) :
    (handleMessage worker command options).Uses contract fun _ => True :=
  handleMessage_worker worker command options
    (fun op handled => permits op (Op.ofMessage_of_worker handled))
    (fun op marks => permits op (Op.ofMessage_of_marks marks)) fun _ => trivial

theorem execute_message (command : GatewayCommand) (executionId : String)
    (existing : Option ExecutionRecord) (controller : Nat) :
    (execute worker groupName streamName msgId command executionId existing controller :
      Proc σ PUnit).Uses contract inv := by
  refine Task.uses_bind (Task.uses_await (permits _ rfl)) fun _ => ?_
  refine Task.uses_bind (recordRunning_message worker permits _ _ _) fun _ => ?_
  refine Task.uses_bind (message_of_background permits dateNow_background) fun _ => ?_
  refine Task.uses_bind (Task.uses_await (permits _ rfl)) fun _ => ?_
  refine Task.uses_bind (Task.uses_focus (handleMessage_message worker permits command _)
    (fun _ _ => trivial) fun _ _ held _ => held) fun result => ?_
  refine Task.uses_bind (Task.uses_await (permits _ rfl)) fun _ => ?_
  refine Task.uses_bind (message_of_background permits dateNow_background) fun _ => ?_
  refine Task.uses_bind (changeExecution_message permits _ _ _) fun _ => ?_
  exact xack_message (xack_permitted permits)

theorem claimMessage_message (command : GatewayCommand) (existing : Option ExecutionRecord) :
    (claimMessage worker groupName streamName msgId command existing : Proc σ PUnit).Uses
      contract inv := by
  refine Task.uses_bind ?_ fun executionId => ?_
  · unfold executionIdOf
    dsimp only
    split
    · exact message_of_background permits (shortId_background _)
    · exact Task.uses_pure _
  · refine Task.uses_bind (Task.uses_await (permits _ rfl)) fun controller => ?_
    refine Task.uses_bind (Task.uses_when fun _ => Task.uses_await (permits _ rfl)) fun _ => ?_
    split
    · exact Task.uses_bind (changeExecution_message permits _ _ _) fun _ => xack_message (xack_permitted permits)
    · exact execute_message worker permits _ _ _ _

theorem consumeMessage_message (data : GatewayCommand) :
    (consumeMessage worker groupName streamName msgId data : Proc σ PUnit).Uses contract inv := by
  refine Task.uses_bind (Task.uses_bind (Task.uses_await (permits _ rfl)) fun outcome =>
    uses_orThrow outcome) fun history => ?_
  refine Task.uses_bind (message_of_background permits
    (getExecutionByMessageId_background _ _)) fun existing => ?_
  split
  · exact xack_message (xack_permitted permits)
  · exact claimMessage_message worker permits _ _

theorem processMessageEntry_message (data : GatewayCommand) :
    (processMessageEntry worker groupName streamName msgId data : Proc σ PUnit).Uses
      contract inv := by
  unfold processMessageEntry
  split
  · exact handleControlMessage_message permits _ _
  · exact Task.uses_bind (admitReply_message
      (fun op handled _ _ _ => permits op handled) worker _) fun admitted =>
      Task.uses_when fun _ => consumeMessage_message worker permits _
  · exact consumeMessage_message worker permits _

theorem processAndAck_message (data : GatewayCommand) :
    (processAndAck worker groupName streamName msgId data : Proc σ PUnit).Uses contract inv := by
  refine Task.uses_withFinally (processMessageEntry_message worker permits data) ?_
  refine Task.uses_bind (Task.uses_await (permits _ rfl)) fun known => ?_
  cases truthyText known with
  | none => exact Task.uses_pure _
  | some executionId => exact Task.uses_await (permits _ rfl)

end

end GatewayWorker

end ByFramework
