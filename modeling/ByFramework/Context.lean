import ByFramework.Availability
import ByFramework.ContextCore
import ByFramework.WaitReply

/-! What the calls of a handler on its context may send, and what they keep of the context. -/

namespace ByFramework

open Async

def callHooks : List String := ["onCallAgentStart", "onCallAgentComplete", "onCallAgentError"]

def contextCommand : RedisCommand → Bool
  | .zadd (.waitIndex _) _ _ | .del (.waitConsumed _ _) => true
  | .hset (.taskGroup _) _ | .expire (.taskGroup _) _ | .expire (.sessionDataStream _) _ => true
  | .xadd _ (.command (.askAgent _)) | .xadd _ (.event _) => true
  | .xadd _ (.wakeup _) | .xadd _ (.pendingDelivery _ _) => true
  | command => backgroundCommand command

def Op.ofHandler : Op → Bool
  | .redis command => contextCommand command
  | .endPipeline | .now | .uuid | .saveMessage _ _ _ _ => true
  | .hook name => name ∈ callHooks
  | .process _ (.abortReason _) => true
  | _ => false

theorem Op.ofHandler_of_background {op : Op} (quiet : op.isBackground = true) :
    op.ofHandler = true := by
  cases op with
  | redis command =>
      simp only [Op.isBackground] at quiet
      simp only [Op.ofHandler]
      unfold contextCommand
      split <;> first | rfl | exact quiet
  | endPipeline => rfl
  | now => rfl
  | uuid => rfl
  | _ => simp [Op.isBackground] at quiet

def Op.writesRegistry : Op → Bool
  | .redis (.hset (.sessionRegistry _) _) | .redis (.set (.sessionRegistry _) _ _ _) => true
  | .redis (.del (.sessionRegistry _)) | .redis (.hincrby (.sessionRegistry _) _ _) => true
  | _ => false

theorem Op.writesRegistry_of_reading {op : Op} (reads : op.isReading = true) :
    op.writesRegistry = false := by
  unfold Op.writesRegistry
  split
  · cases reads
  · cases reads
  · cases reads
  · cases reads
  · rfl

/-- Two states of a context that differ in its notes only: buffer, flags and trace parent. -/
structure AgentContext.Notes (before after : AgentContext) : Prop where
  sessionId : after.sessionId = before.sessionId
  traceId : after.traceId = before.traceId
  currentAgentType : after.currentAgentType = before.currentAgentType
  currentMessageId : after.currentMessageId = before.currentMessageId
  currentCommand : after.currentCommand = before.currentCommand
  suspendedState : after.suspendedState = before.suspendedState
  isSuspended : after.isSuspended = before.isSuspended
  pendingGroupReplies : after.pendingGroupReplies = before.pendingGroupReplies

def messageIdOf (id : String) : String := "msg-" ++ String.ofList (id.toList.take 8)

def freshExecutionId (id : String) : String := "exec-" ++ String.ofList (id.toList.take 8)

def PermitsFiling (contract : Contract effects) (record : ExecutionRecord) : Prop :=
  contract.allowed (.redis (.hset (.sessionRegistry record.sessionId)
    [(execField record.executionId, .execution record)])) ∧
  contract.allowed (.redis (.hset (.sessionRegistry record.sessionId)
    [(msgMapField record.messageId, .text record.executionId)]))

/-- A contract that permits context calls, and a property of contexts that they keep. -/
structure HandlerKeeps (contract : Contract effects) (inv : AgentContext → Prop) : Prop where
  permits : ∀ op : Op, op.ofHandler = true → op.writesRegistry = false → contract.allowed op
  files : ∀ record id, contract.expected .uuid id → record.executionId = freshExecutionId id →
    PermitsFiling contract record
  notes : ∀ before after, inv before → AgentContext.Notes before after → inv after
  suspends : ∀ context state, inv context →
    state ∈ [AgentState.waitingAgent, AgentState.waitingUser] → inv (context.suspend state)
  queues : ∀ context reply id, inv context → contract.expected .uuid id →
    reply.header.parentMessageId = messageIdOf id →
      inv { context with pendingGroupReplies := context.pendingGroupReplies ++ [reply] }

section Calls

variable {σ : Type} {contract : Contract effects}

section Shared

variable {inv : σ → Prop}
  (permits : ∀ op : Op, op.ofHandler = true → op.writesRegistry = false → contract.allowed op)
include permits

theorem handler_of_reading {α : Type} {task : Proc σ α} (uses : task.Uses reading inv) :
    task.Uses contract inv :=
  uses_of_reading uses fun op reads => permits op
    (Op.ofHandler_of_background (Op.isBackground_of_reading reads)) (Op.writesRegistry_of_reading reads)

theorem registerWait_handler (params : RegisterWaitParams) :
    (registerWait params : Proc σ PUnit).Uses contract inv := by
  refine Task.uses_failSoft ?_
  refine Task.uses_bind (handler_of_reading permits dateNow_reading) fun now => ?_
  refine uses_redis_bind (permits _ rfl rfl) fun _ _ => ?_
  exact Task.uses_failSoft (uses_redis_bind (permits _ rfl rfl) fun _ _ => Task.uses_pure _)

theorem emitEvent_handler (message : DataMessage) :
    (emitEvent message : Proc σ PUnit).Uses contract inv := by
  refine Task.uses_bind (handler_of_reading permits dateNow_reading) fun timestamp => ?_
  refine uses_pipeline (fun command listed => ?_) (permits _ rfl rfl)
  simp only [List.mem_cons, List.not_mem_nil, or_false] at listed
  rcases listed with rfl | rfl
  · exact permits _ rfl rfl
  · exact permits _ rfl rfl

theorem emitLayout_handler (message : DataMessage) (params : SseLayoutParams) :
    (emitLayout message params : Proc σ PUnit).Uses contract inv := by
  refine Task.uses_bind (Task.uses_bind (handler_of_reading permits plainId_reading)
    fun id => Task.uses_bind (handler_of_reading permits dateNow_reading)
      fun now => Task.uses_pure _) fun data => ?_
  exact emitEvent_handler permits _

theorem hook_handler {name : String} (listed : name ∈ callHooks) :
    (hook name : Proc σ PUnit).Uses contract inv :=
  Task.uses_await (permits _ (by simpa [Op.ofHandler] using listed) rfl)

theorem prepareDelivery_handler (intent : DeliveryIntent) :
    (prepareDelivery intent : Proc σ _).Uses contract inv :=
  prepareDelivery_uses
    { reads := fun op reads => permits op
        (Op.ofHandler_of_background (Op.isBackground_of_reading reads))
        (Op.writesRegistry_of_reading reads)
      wakes := permits _ rfl rfl
      queues := permits _ rfl rfl }

theorem initializeExecution_handler {record : ExecutionRecord}
    (files : ∀ written : ExecutionRecord, written.executionId = record.executionId →
      PermitsFiling contract written) :
    (initializeExecution record : Proc σ PUnit).Uses contract inv := by
  refine Task.uses_bind (handler_of_reading permits dateNow_reading) fun now => ?_
  refine uses_pipeline (fun command listed => ?_) (permits _ rfl rfl)
  simp only [List.mem_cons, List.not_mem_nil, or_false] at listed
  rcases listed with rfl | rfl | rfl
  · exact (files (record.initialized now) rfl).1
  · exact (files (record.initialized now) rfl).2
  · exact permits _ rfl rfl

theorem shortId_handler (label : String) : (shortId label : Proc σ String).Uses contract inv :=
  handler_of_reading permits (shortId_reading label)

theorem uses_generateExecutionId_bind {β : Type} {next : String → Proc σ β}
    (rest : ∀ id, contract.expected .uuid id → (next (freshExecutionId id)).Uses contract inv) :
    (generateExecutionId >>= next).Uses contract inv :=
  fun memory held => ⟨permits _ rfl rfl, fun id expected => rest id expected memory held⟩

theorem deliverCall_handler (input : CallAgentPublishInput) (command : AskAgentCommand)
    {record : ExecutionRecord} (files : ∀ written : ExecutionRecord,
      written.executionId = record.executionId → PermitsFiling contract written)
    (availability : AvailabilityResult) :
    (deliverCall input command record availability : Proc σ _).Uses contract inv := by
  refine Task.uses_bind (Task.uses_when fun _ => registerWait_handler permits _) fun _ => ?_
  refine Task.uses_bind (initializeExecution_handler permits files) fun _ => ?_
  refine Task.uses_bind (Task.uses_when fun _ => ?_) fun _ => Task.uses_pure _
  exact uses_redis_bind (permits _ rfl rfl) fun _ _ => Task.uses_pure _

variable (files : ∀ record id, contract.expected .uuid id →
  record.executionId = freshExecutionId id → PermitsFiling contract record)
include files

theorem publishCall_handler (input : CallAgentPublishInput) (messageId : String) :
    (publishCall input messageId : Proc σ _).Uses contract inv := by
  refine Task.uses_bind (uses_orThrow _) fun command => ?_
  refine uses_generateExecutionId_bind permits fun id fresh => ?_
  refine Task.uses_bind (prepareDelivery_handler permits _) fun availability => ?_
  split
  · exact Task.uses_bind (initializeExecution_handler permits fun written same =>
      files written id fresh same) fun _ => Task.uses_pure _
  · exact deliverCall_handler permits _ _ (fun written same => files written id fresh same) _

theorem publishCallAgent_handler (input : CallAgentPublishInput) :
    (publishCallAgent input : Proc σ _).Uses contract inv := by
  refine Task.uses_bind ?_ fun messageId => publishCall_handler permits files _ _
  split
  · exact shortId_handler permits _
  · exact Task.uses_pure _

end Shared

theorem uses_generateMessageId_bind {inv : σ → Prop} {β : Type} {next : String → Proc σ β}
    (permitted : contract.allowed .uuid)
    (rest : ∀ id, contract.expected .uuid id → (next (messageIdOf id)).Uses contract inv) :
    (generateMessageId >>= next).Uses contract inv :=
  fun memory held => ⟨permitted, fun id expected => rest id expected memory held⟩

theorem uses_makeResume_bind {inv : σ → Prop} {β : Type} {header : MessageHeader}
    {content replyData : JsonValue} {status : String} {extraPayload : JsonObject}
    {next : ResumeCommand → Proc σ β}
    (rest : ∀ command : ResumeCommand, command.header = header → (next command).Uses contract inv) :
    (orThrow (ResumeCommand.make header content status replyData extraPayload) >>= next).Uses
      contract inv := by
  cases made : ResumeCommand.make header content status replyData extraPayload with
  | error error => exact fun memory held => held
  | ok command => exact rest command (ResumeCommand.make_header made)

end Calls

/-! ### Context calls -/

section Context

variable {contract : Contract effects} {inv : AgentContext → Prop}
  (keeps : HandlerKeeps contract inv)
include keeps

theorem saveMessage_handler (sessionId role : String) (content : JsonValue)
    (metadata : JsonObject) :
    (saveMessage sessionId role content metadata : Proc AgentContext PUnit).Uses contract inv :=
  Task.uses_bind (Task.uses_await (keeps.permits _ rfl rfl)) fun outcome => uses_orThrow outcome

theorem flushToHistory_handler : AgentContext.flushToHistory.Uses contract inv := by
  refine Task.uses_bind Task.uses_get fun context => ?_
  split
  · exact Task.uses_pure _
  · refine Task.uses_bind (saveMessage_handler keeps _ _ _ _) fun _ => ?_
    exact Task.uses_modify fun context held => keeps.notes _ _ held ⟨rfl, rfl, rfl, rfl, rfl, rfl, rfl, rfl⟩

theorem emitChunk_handler (content eventType : String) :
    (AgentContext.emitChunk content eventType).Uses contract inv := by
  refine Task.uses_bind (Task.uses_modify fun context held => ?_) fun _ => ?_
  · split
    · exact held
    · exact keeps.notes _ _ held ⟨rfl, rfl, rfl, rfl, rfl, rfl, rfl, rfl⟩
  · refine Task.uses_bind Task.uses_get fun context => ?_
    refine Task.uses_bind (emitLayout_handler keeps.permits _ _) fun _ => ?_
    refine Task.uses_when fun _ => Task.uses_bind (Task.uses_modify fun context held => ?_)
      fun _ => flushToHistory_handler keeps
    exact keeps.notes _ _ held ⟨rfl, rfl, rfl, rfl, rfl, rfl, rfl, rfl⟩

theorem emitState_handler (state : String) : (AgentContext.emitState state).Uses contract inv :=
  Task.uses_bind Task.uses_get fun _ => emitLayout_handler keeps.permits _ _

theorem askUser_handler (prompt : String) (replyTimeoutMs : Option Int) :
    (AgentContext.askUser prompt replyTimeoutMs).Uses contract inv := by
  refine Task.uses_bind Task.uses_get fun context => ?_
  refine Task.uses_bind (registerWait_handler keeps.permits _) fun _ => ?_
  refine Task.uses_bind (emitLayout_handler keeps.permits _ _) fun _ => ?_
  exact Task.uses_modify fun context held => keeps.suspends context _ held (by simp)

theorem abortReason_handler (workerId : String) (signal : Option Nat) :
    (AgentContext.abortReason workerId signal : Proc AgentContext _).Uses contract inv := by
  cases signal with
  | none => exact Task.uses_pure _
  | some controller => exact Task.uses_await (keeps.permits _ rfl rfl)

theorem checkCancelled_handler : AgentContext.checkCancelled.Uses contract inv := by
  refine Task.uses_bind Task.uses_get fun context => ?_
  refine Task.uses_bind (abortReason_handler keeps _ _) fun reason => ?_
  cases reason with
  | none => exact Task.uses_pure _
  | some reason => exact Task.uses_throw _

theorem afterCall_keeps {context : AgentContext} (held : inv context) (hint : RuntimeHint)
    (waitForReply : Bool) : inv (context.afterCall hint waitForReply) := by
  unfold AgentContext.afterCall
  split
  · exact keeps.suspends context _ held (by simp)
  · split
    · exact keeps.notes _ _ held ⟨rfl, rfl, rfl, rfl, rfl, rfl, rfl, rfl⟩
    · exact held

theorem callAgent_handler (params : CallAgentParams) :
    (AgentContext.callAgent params).Uses contract inv := by
  refine Task.uses_bind ?_ fun messageId => ?_
  · split
    · exact shortId_handler keeps.permits _
    · exact Task.uses_pure _
  · refine Task.uses_bind Task.uses_get fun context => ?_
    refine Task.uses_bind (hook_handler keeps.permits (by simp [callHooks])) fun _ => ?_
    refine Task.uses_bind (Task.uses_tryCatch (publishCallAgent_handler keeps.permits keeps.files _)
      fun error => ?_) fun raw => ?_
    · exact Task.uses_bind (hook_handler keeps.permits (by simp [callHooks])) fun _ =>
        Task.uses_throw _
    · split
      · exact Task.uses_bind (hook_handler keeps.permits (by simp [callHooks])) fun _ =>
          Task.uses_pure _
      · refine Task.uses_bind (Task.uses_modify fun context held =>
          afterCall_keeps keeps held _ _) fun _ => ?_
        exact Task.uses_bind (hook_handler keeps.permits (by simp [callHooks])) fun _ =>
          Task.uses_pure _

theorem beginGroup_handler (taskGroupId : String) (total : Nat) (wait : Bool) :
    (AgentContext.beginGroup taskGroupId total wait).Uses contract inv := by
  refine Task.uses_bind Task.uses_get fun context => ?_
  split
  · refine uses_redis_bind (keeps.permits _ rfl rfl) fun _ _ => ?_
    refine uses_redis_bind (keeps.permits _ rfl rfl) fun _ _ => ?_
    exact Task.uses_modify fun context held => keeps.suspends context _ held (by simp)
  · exact Task.uses_modify fun context held =>
      keeps.notes _ _ held ⟨rfl, rfl, rfl, rfl, rfl, rfl, rfl, rfl⟩

theorem probeGroupMemberOnline_handler (targetAgentType : String) :
    (AgentContext.probeGroupMemberOnline targetAgentType).Uses contract inv :=
  Task.uses_tryCatch (Task.uses_bind (handler_of_reading keeps.permits
    (hasOnlineAgentType_reading _)) fun _ => Task.uses_pure _) fun _ => Task.uses_pure _

theorem queueUndispatchedMemberFailure_handler {id : String} {member : AgentContext.GroupMember}
    (fresh : contract.expected .uuid id) (named : member.messageId = messageIdOf id) :
    (AgentContext.queueUndispatchedMemberFailure member).Uses contract inv := by
  refine Task.uses_bind Task.uses_get fun context => ?_
  refine Task.uses_bind (registerWait_handler keeps.permits _) fun _ => ?_
  split
  · exact Task.uses_pure _
  · refine uses_standInReply_bind (keeps.permits _ rfl rfl) fun traceId reply built => ?_
    have answers : reply.header.parentMessageId = messageIdOf id := by
      rw [built]
      exact named
    exact Task.uses_modify fun context held => keeps.queues context reply id held fresh answers

theorem failMember_handler {id : String} {member : AgentContext.GroupMember}
    (fresh : contract.expected .uuid id) (named : member.messageId = messageIdOf id) :
    (AgentContext.failMember member).Uses contract inv := by
  refine Task.uses_bind Task.uses_get fun context => ?_
  refine uses_generateExecutionId_bind keeps.permits fun executionId unused => ?_
  refine Task.uses_bind (initializeExecution_handler keeps.permits fun written same =>
    keeps.files written executionId unused same) fun _ => ?_
  refine Task.uses_bind (queueUndispatchedMemberFailure_handler keeps fresh named) fun _ => ?_
  exact hook_handler keeps.permits (by simp [callHooks])

theorem abortGroup_handler (member : AgentContext.GroupMember) (error : JsError) :
    (AgentContext.abortGroup member error).Uses contract inv := by
  refine Task.uses_bind (hook_handler keeps.permits (by simp [callHooks])) fun _ => ?_
  refine Task.uses_bind (Task.uses_when fun _ => Task.uses_failSoft ?_) fun _ => Task.uses_throw _
  exact uses_redis_bind (keeps.permits _ rfl rfl) fun _ _ => Task.uses_pure _

theorem publishMember_handler (member : AgentContext.GroupMember) (command : AskAgentCommand) :
    (AgentContext.publishMember member command).Uses contract inv := by
  refine Task.uses_bind Task.uses_get fun context => ?_
  refine uses_generateExecutionId_bind keeps.permits fun executionId unused => ?_
  refine Task.uses_bind (initializeExecution_handler keeps.permits fun written same =>
    keeps.files written executionId unused same) fun _ => ?_
  refine Task.uses_bind (Task.uses_when fun _ => registerWait_handler keeps.permits _) fun _ => ?_
  refine Task.uses_bind (Task.uses_tryCatch ?_ fun error => abortGroup_handler keeps _ _)
    fun _ => hook_handler keeps.permits (by simp [callHooks])
  exact uses_redis_bind (keeps.permits _ rfl rfl) fun _ _ => Task.uses_pure _

theorem dispatchMember_handler (taskGroupId : String) (params : DispatchGroupParams)
    (task : GroupTask) : (AgentContext.dispatchMember taskGroupId params task).Uses contract inv := by
  refine uses_generateMessageId_bind (keeps.permits _ rfl rfl) fun id fresh => ?_
  refine Task.uses_bind Task.uses_get fun context => ?_
  refine Task.uses_bind (uses_orThrow _) fun command => ?_
  refine Task.uses_bind (hook_handler keeps.permits (by simp [callHooks])) fun _ => ?_
  refine Task.uses_bind ?_ fun online => ?_
  · split
    · exact probeGroupMemberOnline_handler keeps _
    · exact Task.uses_pure _
  · dsimp only
    split
    · exact Task.uses_bind (publishMember_handler keeps _ _) fun _ => Task.uses_pure _
    · exact Task.uses_bind (failMember_handler keeps fresh rfl) fun _ => Task.uses_pure _

theorem dispatchGroup_handler (params : DispatchGroupParams) :
    (AgentContext.dispatchGroup params).Uses contract inv := by
  unfold AgentContext.dispatchGroup
  split
  · exact Task.uses_pure _
  · refine Task.uses_bind (shortId_handler keeps.permits _) fun taskGroupId => ?_
    refine Task.uses_bind (beginGroup_handler keeps _ _ _) fun _ => ?_
    refine Task.uses_bind (Task.uses_mapEach _ fun task _ => ?_) fun _ => Task.uses_pure _
    exact dispatchMember_handler keeps _ _ _

theorem Handler.run_uses (handler : Handler) : handler.run.Uses contract inv := by
  have noted (change : AgentContext → AgentContext)
      (keeping : ∀ context, AgentContext.Notes context (change context)) :
      (modify change : Proc AgentContext PUnit).Uses contract inv :=
    Task.uses_modify fun context held => keeps.notes _ _ held (keeping context)
  induction handler with
  | returns value => exact Task.uses_pure _
  | throws error => exact Task.uses_throw _
  | callAgent params next ih =>
      exact Task.uses_bind (Task.uses_attempt (callAgent_handler keeps params)) ih
  | dispatchGroup params next ih =>
      exact Task.uses_bind (Task.uses_attempt (dispatchGroup_handler keeps params)) ih
  | askUser prompt replyTimeoutMs next ih =>
      exact Task.uses_bind (Task.uses_attempt (askUser_handler keeps prompt replyTimeoutMs)) ih
  | emitChunk content eventType next ih =>
      exact Task.uses_bind (Task.uses_attempt (emitChunk_handler keeps content eventType)) ih
  | emitState state next ih =>
      exact Task.uses_bind (Task.uses_attempt (emitState_handler keeps state)) ih
  | flushToHistory next ih =>
      exact Task.uses_bind (Task.uses_attempt (flushToHistory_handler keeps)) ih
  | checkCancelled next ih =>
      exact Task.uses_bind (Task.uses_attempt (checkCancelled_handler keeps)) ih
  | setFinalAnswerEmitted emitted next ih =>
      exact Task.uses_bind
        (noted _ fun context => ⟨rfl, rfl, rfl, rfl, rfl, rfl, rfl, rfl⟩) fun _ => ih
  | setStreamFinished finished next ih =>
      exact Task.uses_bind
        (noted _ fun context => ⟨rfl, rfl, rfl, rfl, rfl, rfl, rfl, rfl⟩) fun _ => ih
  | setTraceParentObservationId id next ih =>
      exact Task.uses_bind
        (noted _ fun context => ⟨rfl, rfl, rfl, rfl, rfl, rfl, rfl, rfl⟩) fun _ => ih
  | dateNow next ih =>
      exact Task.uses_bind (handler_of_reading keeps.permits dateNow_reading) ih

end Context

end ByFramework
