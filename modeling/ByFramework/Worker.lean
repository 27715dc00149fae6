import ByFramework.Context
import ByFramework.WorkerCore

/-! What the handling of one message may send, whatever its handler does. -/

namespace ByFramework

open Async

def workerCommand : RedisCommand → Bool
  | .hget (.taskGroup _) _ | .hincrby (.taskGroup _) _ _ => true
  | .hset (.taskGroupResults _) _ | .expire (.taskGroupResults _) _ => true
  | .xadd (.ctrlStream _) (.command (.resume _)) => true
  | command => contextCommand command

def Op.ofWorker : Op → Bool
  | .redis command => workerCommand command
  | .endPipeline | .now | .uuid | .saveMessage _ _ _ _ => true
  | .setupWorkspace _ _ | .cleanupTask _ _ | .persistAgentReturnState _ | .hook _ => true
  | .process _ (.abortReason _) => true
  | .process _ (.reach (.handlerStarts _ _)) => true
  | _ => false

def Op.marksPhase : Op → Bool
  | .process _ (.reach (.handlerEnds _ _ _)) | .process _ (.reach (.messageFails _ _)) => true
  | _ => false

theorem Op.ofWorker_of_handler {op : Op} (called : op.ofHandler = true) : op.ofWorker = true := by
  cases op with
  | redis command =>
      simp only [Op.ofHandler] at called
      simp only [Op.ofWorker]
      unfold workerCommand
      split <;> first | rfl | exact called
  | process workerId request =>
      cases request with
      | abortReason controller => rfl
      | _ => simp [Op.ofHandler] at called
  | hook name => rfl
  | endPipeline => rfl
  | now => rfl
  | uuid => rfl
  | saveMessage sessionId role content metadata => rfl
  | _ => simp [Op.ofHandler] at called

def Op.sendsReply : Op → Bool
  | .redis (.xadd _ (.command (.resume _))) => true
  | _ => false

theorem Op.sendsReply_of_handler {op : Op} (called : op.ofHandler = true) :
    op.sendsReply = false := by
  unfold Op.sendsReply
  split
  · simp [Op.ofHandler, contextCommand, backgroundCommand] at called
  · rfl

theorem Op.unmarked_of_worker {op : Op} (handled : op.ofWorker = true) :
    op.marksPhase = false := by
  unfold Op.marksPhase
  split
  · cases handled
  · cases handled
  · rfl

theorem Op.unmarked_of_handler {op : Op} (called : op.ofHandler = true) :
    op.marksPhase = false :=
  unmarked_of_worker (ofWorker_of_handler called)

theorem worker_of_background {σ α : Type} {contract : Contract effects} {inv : σ → Prop}
    (permits : ∀ op : Op, op.ofWorker = true → contract.allowed op) {task : Proc σ α}
    (uses : task.Uses background inv) : task.Uses contract inv :=
  uses_of_background uses fun op quiet =>
    permits op (Op.ofWorker_of_handler (Op.ofHandler_of_background quiet))

/-- A contract that permits a message's handling apart from its replies, and a property of its
context that is kept. -/
structure MessageKeeps (contract : Contract effects) (inv : AgentContext → Prop) : Prop
    extends HandlerKeeps contract inv where
  handles : ∀ op : Op, op.ofWorker = true → op.writesRegistry = false → op.sendsReply = false →
    contract.allowed op
  takes : ∀ context, inv context → inv { context with pendingGroupReplies := [] }
  standIns : ∀ context agentType, inv context → ∀ reply ∈ context.pendingGroupReplies,
    contract.allowed (.redis (.xadd (.ctrlStream agentType) (.command (.resume reply))))

def MaySend (contract : Contract effects) (workerId : String) (header : MessageHeader)
    (status : String) (agentReturn : AgentReturn) : Prop :=
  ∀ messageId callback, ResumeCommand.make
      (callbackHeader header workerId messageId agentReturn.metadata) agentReturn.content status
      agentReturn.replyData agentReturn.extraPayload = .ok callback →
    contract.allowed (.redis (.xadd (.ctrlStream callback.header.targetAgentType)
      (.command (.resume callback))))

theorem uses_orThrow_bind {σ α β : Type} {contract : Contract effects} {inv : σ → Prop}
    {outcome : Except JsError α} {next : α → Proc σ β}
    (rest : ∀ value, outcome = .ok value → (next value).Uses contract inv) :
    (orThrow outcome >>= next).Uses contract inv := by
  cases outcome with
  | ok value => exact rest value rfl
  | error error => exact Task.uses_throw_bind error next

section

variable {σ : Type} {contract : Contract effects} {inv : σ → Prop}
  (handles : ∀ op : Op, op.ofWorker = true → op.writesRegistry = false → op.sendsReply = false →
    contract.allowed op)
include handles

theorem worker_of_reading {α : Type} {task : Proc σ α} (uses : task.Uses reading inv) :
    task.Uses contract inv :=
  uses_of_reading uses fun op reads =>
    have called := Op.ofHandler_of_background (Op.isBackground_of_reading reads)
    handles op (Op.ofWorker_of_handler called) (Op.writesRegistry_of_reading reads)
      (Op.sendsReply_of_handler called)

theorem hook_worker (name : String) : (hook name : Proc σ PUnit).Uses contract inv :=
  Task.uses_await (handles _ rfl rfl rfl)

theorem persistSingleCallResult_worker (header : MessageHeader) (callback : ResumeCommand) :
    (persistSingleCallResult header callback : Proc σ PUnit).Uses contract inv := by
  unfold persistSingleCallResult
  split
  · exact Task.uses_pure _
  · refine Task.uses_failSoft (uses_redis_bind (handles _ rfl rfl rfl) fun _ _ => ?_)
    exact uses_redis_bind (handles _ rfl rfl rfl) fun _ _ => Task.uses_pure _

omit handles in
theorem xaddWithRetry_worker {stream : Key} {callback : ResumeCommand}
    (sends : contract.allowed (.redis (.xadd stream (.command (.resume callback)))))
    (retries : Nat) : (xaddWithRetry stream callback retries : Proc σ PUnit).Uses contract inv := by
  have attempt : (do
      let _ ← redis (.xadd stream (.command (.resume callback))) :
      Proc σ PUnit).Uses contract inv :=
    uses_redis_bind sends fun _ _ => Task.uses_pure _
  induction retries with
  | zero => exact attempt
  | succ retries ih => exact Task.uses_tryCatch attempt fun _ => ih

theorem enqueueAgentReturn_worker {workerId : String} {header : MessageHeader} {status : String}
    {agentReturn : AgentReturn} (sends : MaySend contract workerId header status agentReturn) :
    (enqueueAgentReturn workerId header status agentReturn : Proc σ PUnit).Uses contract inv := by
  unfold enqueueAgentReturn
  split
  · exact Task.uses_pure _
  · refine Task.uses_bind ?_ fun messageId => ?_
    · split
      · exact worker_of_reading handles (shortId_reading _)
      · exact Task.uses_pure _
    · refine uses_orThrow_bind fun callback made => ?_
      refine Task.uses_bind (persistSingleCallResult_worker handles _ _) fun _ => ?_
      exact xaddWithRetry_worker (sends messageId callback made) _

theorem joinGroup_worker (command : ResumeCommand) :
    (joinGroup command : Proc σ _).Uses contract inv := by
  refine uses_redis_bind (handles _ rfl rfl rfl) fun total _ => ?_
  cases total with
  | none => exact Task.uses_pure _
  | some total =>
      refine uses_redis_bind (handles _ rfl rfl rfl) fun aborted _ => ?_
      split
      · exact Task.uses_pure _
      · refine uses_redis_bind (handles _ rfl rfl rfl) fun _ _ => ?_
        refine uses_redis_bind (handles _ rfl rfl rfl) fun _ _ => ?_
        refine uses_redis_bind (handles _ rfl rfl rfl) fun completed _ => ?_
        split <;> exact Task.uses_pure _

end

/-! ### Before the handler -/

def Op.ofSetup : Op → Bool
  | .saveMessage _ _ _ _ | .setupWorkspace _ _ | .persistAgentReturnState _ => true
  | .process _ (.abortReason _) => true
  | _ => false

theorem Op.ofWorker_of_setup {op : Op} (sets : op.ofSetup = true) :
    op.ofWorker = true ∧ op.writesRegistry = false ∧ op.sendsReply = false := by
  unfold Op.ofSetup at sets
  split at sets <;> first | exact ⟨rfl, rfl, rfl⟩ | cases sets

namespace GatewayWorker

section

variable {contract : Contract effects} {inv : MessageRun → Prop}
  (permits : ∀ op : Op, op.ofSetup = true → contract.allowed op)
include permits

theorem saveUserMessage_setup (command : GatewayCommand) :
    (saveUserMessage command).Uses contract inv := by
  unfold saveUserMessage
  split
  · exact Task.uses_bind (Task.uses_await (permits _ rfl)) fun outcome => uses_orThrow outcome
  · exact Task.uses_pure _

theorem setupWorkspace_setup (worker : GatewayWorker) (command : GatewayCommand)
    (marks : ∀ run, inv run → inv { run with hasWorkspacePaths := true }) :
    (setupWorkspace worker command).Uses contract inv :=
  Task.uses_when fun _ => Task.uses_bind (Task.uses_await (permits _ rfl)) fun outcome =>
    Task.uses_bind (uses_orThrow outcome) fun _ => Task.uses_modify marks

theorem assertNotCancelled_setup (worker : GatewayWorker) (options : HandleMessageOptions) :
    (assertNotCancelled worker options).Uses contract inv := by
  have asks : (AgentContext.abortReason worker.workerId options.cancelSignal :
      Proc MessageRun _).Uses contract inv := by
    unfold AgentContext.abortReason
    split
    · exact Task.uses_pure _
    · exact Task.uses_await (permits _ rfl)
  refine Task.uses_bind asks fun reason => ?_
  cases reason with
  | none => exact Task.uses_pure _
  | some reason => exact Task.uses_throw _

theorem persistAgentReturnState_setup (resume : ResumeCommand) :
    (persistAgentReturnState resume).Uses contract inv :=
  Task.uses_bind Task.uses_get fun _ => Task.uses_when fun _ =>
    Task.uses_bind (Task.uses_await (permits _ rfl)) fun outcome => uses_orThrow outcome

end

end GatewayWorker

namespace GatewayWorker

section

variable {contract : Contract effects} {inv : AgentContext → Prop}

theorem onContext_worker {α : Type} {task : Proc AgentContext α} (uses : task.Uses contract inv) :
    (MessageRun.onContext task).Uses contract fun run => inv run.context :=
  Task.uses_focus uses (fun _ held => held) fun _ _ _ kept => kept

variable (keeps : MessageKeeps contract inv)
include keeps

theorem emitChunk_worker (content eventType : String) :
    (MessageRun.onContext (AgentContext.emitChunk content eventType)).Uses contract
      fun run => inv run.context :=
  onContext_worker (emitChunk_handler keeps.toHandlerKeeps _ _)

theorem flushToHistory_worker :
    (MessageRun.onContext AgentContext.flushToHistory).Uses contract fun run => inv run.context :=
  onContext_worker (flushToHistory_handler keeps.toHandlerKeeps)

variable (worker : GatewayWorker) (command : GatewayCommand) (options : HandleMessageOptions)

theorem prepare_worker :
    (prepare worker command options).Uses contract fun run => inv run.context := by
  have ofSetup (op : Op) (sets : op.ofSetup = true) : contract.allowed op := by
    obtain ⟨handled, files, sends⟩ := Op.ofWorker_of_setup sets
    exact keeps.handles op handled files sends
  have rejoins (resume : ResumeCommand) :
      (rejoin resume).Uses contract fun run => inv run.context := by
    refine Task.uses_bind (persistAgentReturnState_setup ofSetup resume) fun _ => ?_
    refine Task.uses_bind ?_ fun early => ?_
    · split
      · exact Task.uses_pure _
      · exact joinGroup_worker keeps.handles resume
    · cases early with
      | some result => exact Task.uses_pure _
      | none =>
          refine Task.uses_bind ?_ fun _ => Task.uses_pure _
          exact onContext_worker (emitState_handler keeps.toHandlerKeeps _)
  refine Task.uses_bind (hook_worker keeps.handles _) fun _ => ?_
  refine Task.uses_bind (saveUserMessage_setup ofSetup command) fun _ => ?_
  refine Task.uses_bind (setupWorkspace_setup ofSetup worker command fun _ held => held)
    fun _ => ?_
  refine Task.uses_bind (assertNotCancelled_setup ofSetup worker options) fun _ => ?_
  split
  · exact rejoins _
  · exact Task.uses_pure _

theorem runHandler_worker (marks : ∀ op : Op, op.marksPhase = true → contract.allowed op) :
    (runHandler worker command options).Uses contract fun run => inv run.context := by
  refine Task.uses_bind Task.uses_get fun run => ?_
  refine Task.uses_bind (Task.uses_await (keeps.handles _ rfl rfl rfl)) fun _ => ?_
  refine Task.uses_bind (Task.uses_attempt (onContext_worker
    (Handler.run_uses keeps.toHandlerKeeps _))) fun outcome => ?_
  exact Task.uses_bind (Task.uses_await (marks _ rfl)) fun _ => uses_orThrow outcome

theorem flushQueued_worker {α : Type} {next : Proc MessageRun α}
    (rest : next.Uses contract fun run => inv run.context) :
    (do
      flushPendingGroupReplies (← MessageRun.onContext AgentContext.takePendingGroupReplies)
      next : Proc MessageRun α).Uses contract fun run => inv run.context := by
  intro run held
  have flushes : (flushPendingGroupReplies run.context.pendingGroupReplies :
      Proc MessageRun PUnit).Uses contract fun run => inv run.context :=
    Task.uses_forEach _ fun reply listed => Task.uses_failSoft
      (uses_redis_bind (keeps.standIns _ _ held reply listed) fun _ _ => Task.uses_pure _)
  exact Task.uses_bind flushes (fun _ => rest) _ (keeps.takes _ held)

omit keeps in
theorem applySuspendedStatus_toReturn (result : AgentTaskResult) (context : AgentContext) :
    (applySuspendedStatus result context).toReturn = result.toReturn := by
  unfold applySuspendedStatus
  split <;> rfl

theorem returnToCaller_worker {reply : GatewayCommand} {result : AgentTaskResult}
    (sends : MaySend contract worker.workerId reply.header result.status result.toReturn) :
    (returnToCaller worker reply result).Uses contract fun run => inv run.context := by
  refine Task.uses_bind (Task.uses_modify fun _ held => held) fun _ => ?_
  refine Task.uses_bind (hook_worker keeps.handles _) fun _ => ?_
  refine Task.uses_tryCatch (Task.uses_bind (enqueueAgentReturn_worker keeps.handles sends)
    fun _ => hook_worker keeps.handles _) fun error => ?_
  exact Task.uses_bind (hook_worker keeps.handles _) fun _ => Task.uses_throw _

theorem reportResult_worker {normalized : AgentTaskResult}
    (sends : ∀ reply, replyCommand command options = some reply → ∀ status,
      MaySend contract worker.workerId reply.header status normalized.toReturn) :
    (reportResult worker command options normalized).Uses contract fun run => inv run.context := by
  refine Task.uses_bind Task.uses_get fun run => ?_
  dsimp only
  split
  · exact Task.uses_pure _
  · rename_i reply replies
    refine Task.uses_bind (Task.uses_when fun _ => returnToCaller_worker keeps worker ?_)
      fun _ => Task.uses_pure _
    rw [applySuspendedStatus_toReturn]
    exact sends reply replies _

theorem emitFinalAnswer_worker (message : Option String) :
    (emitFinalAnswer message).Uses contract fun run => inv run.context := by
  refine Task.uses_bind Task.uses_get fun run => ?_
  cases message with
  | none => exact Task.uses_pure _
  | some text => exact Task.uses_when fun _ => emitChunk_worker keeps _ _

theorem endStream_worker (status : String) :
    (endStream command options status).Uses contract fun run => inv run.context := by
  refine Task.uses_bind Task.uses_get fun run => ?_
  split
  · exact Task.uses_when fun _ => emitChunk_worker keeps _ _
  · exact flushToHistory_worker keeps

theorem afterHandler_worker {value : HandlerValue} (sends : ∀ normalized,
    normalizeProcessResult value = .ok normalized → ∀ reply,
      replyCommand command options = some reply → ∀ status,
        MaySend contract worker.workerId reply.header status normalized.toReturn) :
    (afterHandler worker command options value).Uses contract fun run => inv run.context := by
  refine flushQueued_worker keeps (uses_orThrow_bind fun normalized normal => ?_)
  refine Task.uses_bind (reportResult_worker keeps worker command options
    (sends normalized normal)) fun result => ?_
  refine Task.uses_bind (hook_worker keeps.handles _) fun _ => ?_
  refine Task.uses_bind (emitFinalAnswer_worker keeps _) fun _ => ?_
  exact Task.uses_bind (endStream_worker keeps command options _) fun _ => Task.uses_pure _

theorem notifyCaller_worker {reply : GatewayCommand} {status : String} {replyData : JsonValue}
    (sends : MaySend contract worker.workerId reply.header status { replyData := replyData }) :
    (notifyCaller worker reply status replyData).Uses contract fun run => inv run.context := by
  refine Task.uses_bind (hook_worker keeps.handles _) fun _ => ?_
  exact Task.uses_tryCatch (Task.uses_bind (enqueueAgentReturn_worker keeps.handles sends)
    fun _ => hook_worker keeps.handles _) fun error => hook_worker keeps.handles _

theorem endFailedStream_worker :
    (endFailedStream command options).Uses contract fun run => inv run.context := by
  refine Task.uses_bind Task.uses_get fun run => ?_
  split
  · exact emitChunk_worker keeps _ _
  · exact flushToHistory_worker keeps

theorem callerListens_worker (reply : GatewayCommand) :
    (callerListens command reply).Uses contract fun run => inv run.context := by
  unfold callerListens
  split
  · exact Task.uses_pure _
  · exact Task.uses_bind
      (worker_of_reading keeps.handles (getExecutionByMessageId_reading _ _))
      fun parent => Task.uses_pure _

variable (fails : ∀ reply, replyCommand command options = some reply →
  ∀ status ∈ [AgentState.cancelled, AgentState.failed], ∀ replyData,
    MaySend contract worker.workerId reply.header status { replyData := replyData })
include fails

theorem reportError_worker (error : JsError) :
    (reportError worker command options error).Uses contract fun run => inv run.context := by
  have cancelled : (reportCancelled worker command options error).Uses contract
      fun run => inv run.context := by
    unfold reportCancelled
    split
    · exact Task.uses_pure _
    · rename_i reply replies
      refine Task.uses_bind (callerListens_worker keeps _ _) fun listens => ?_
      exact Task.uses_when fun _ => notifyCaller_worker keeps _ (fails reply replies _ (by simp) _)
  have failed : (reportFailed worker command options error).Uses contract
      fun run => inv run.context := by
    unfold reportFailed
    split
    · exact Task.uses_pure _
    · rename_i reply replies
      exact notifyCaller_worker keeps _ (fails reply replies _ (by simp) _)
  unfold reportError
  split
  · exact Task.uses_bind cancelled fun _ =>
      Task.uses_bind (endFailedStream_worker keeps _ _) fun _ => Task.uses_pure _
  · exact Task.uses_bind failed fun _ => Task.uses_bind (hook_worker keeps.handles _) fun _ =>
      Task.uses_bind (endFailedStream_worker keeps _ _) fun _ => Task.uses_pure _

omit fails in
theorem cleanupTask_worker : (cleanupTask command).Uses contract fun run => inv run.context :=
  Task.uses_bind Task.uses_get fun _ => Task.uses_when fun _ =>
    Task.uses_bind (Task.uses_await (keeps.handles _ rfl rfl rfl)) fun outcome => uses_orThrow outcome

omit keeps fails

section

variable (permits : ∀ op : Op, op.ofWorker = true → contract.allowed op)
  (marks : ∀ op : Op, op.marksPhase = true → contract.allowed op)
include permits

theorem messageKeeps : MessageKeeps contract fun _ => True where
  permits op called _ := permits op (Op.ofWorker_of_handler called)
  files _ _ _ _ := ⟨permits _ rfl, permits _ rfl⟩
  notes _ _ _ _ := trivial
  suspends _ _ _ _ := trivial
  queues _ _ _ _ _ _ := trivial
  handles op handled _ _ := permits op handled
  takes _ _ := trivial
  standIns _ _ _ _ _ := permits _ rfl

theorem maySend_worker (workerId : String) (header : MessageHeader) (status : String)
    (agentReturn : AgentReturn) : MaySend contract workerId header status agentReturn :=
  fun _ _ _ => permits _ rfl

include marks

theorem processMessage_worker : (processMessage worker command options).Uses contract := by
  have keeps := messageKeeps permits
  refine Task.uses_bind (prepare_worker keeps worker command options) fun early => ?_
  cases early with
  | some result => exact Task.uses_pure _
  | none =>
      refine Task.uses_bind (runHandler_worker keeps worker command options marks) fun value => ?_
      exact afterHandler_worker keeps worker command options
        fun _ _ _ _ _ => maySend_worker permits _ _ _ _

theorem handleMessage_worker {inv : Option AgentContext → Prop}
    (shows : ∀ context, inv (some context)) :
    (handleMessage worker command options).Uses contract inv := by
  have keeps := messageKeeps permits
  refine Task.uses_bind ?_ fun traceId => ?_
  · split
    · exact worker_of_background permits plainId_background
    · exact Task.uses_pure _
  · refine Task.uses_focus (Task.uses_withFinally (Task.uses_tryCatch
      (processMessage_worker worker command options permits marks)
      fun error => Task.uses_bind (Task.uses_await (marks _ rfl)) fun _ =>
        reportError_worker keeps worker command options
          (fun _ _ _ _ _ => maySend_worker permits _ _ _ _) error)
      (cleanupTask_worker keeps command)) (fun _ _ => trivial) fun _ last _ _ => shows _

end

end

end GatewayWorker

end ByFramework
