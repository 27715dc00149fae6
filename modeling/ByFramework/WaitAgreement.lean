import ByFramework.Context
import ByFramework.ProcessorCore
import ByFramework.RunnerCore
import ByFramework.SweepEntry

/-!
The wait of a dispatch and the replies that can answer it: whoever builds the reply, the gate
rebuilds from it the shard and the member that the dispatch registered.
-/

namespace ByFramework

open Async

def Value.carried : Value → Option GatewayCommand
  | .command sent => some sent
  | .wakeup intent => some intent.command
  | .pendingDelivery _ intent => some intent.command
  | _ => none

def asksFor (wait : RegisterWaitParams) (command : GatewayCommand) : Prop :=
  command.isResume = false ∧ command.header.asks = wait.entry

/-- Register no wait but `wait`, record no execution but its callee, ask for no other reply. -/
def dispatching (wait : RegisterWaitParams) : Contract effects := .only fun op => match op with
  | .redis (.zadd key member _) => key = waitIndexKey wait.sessionId ∧ member = wait.member
  | .redis (.hset _ fields) => ∀ name record, (name, Value.execution record) ∈ fields →
      record.asks = wait.entry
  | .redis (.xadd _ value) => ∀ command, value.carried = some command → asksFor wait command
  | _ => True

/-- The gate looks for `wait` first, in its shard, when it gets a reply with this header. -/
structure Clears (wait : RegisterWaitParams) (header : MessageHeader) : Prop where
  shard : waitIndexKey header.sessionId = waitIndexKey wait.sessionId
  member : (candidateMembers header).head? = some wait.member

def answering (wait : RegisterWaitParams) : Contract effects := .only fun op => match op with
  | .redis (.xadd _ (.command (.resume reply))) => Clears wait reply.header
  | _ => True

theorem clears_of_answers {wait : RegisterWaitParams} {header : MessageHeader}
    (answers : header.answers = wait.entry) : Clears wait header where
  shard := congrArg waitIndexKey (congrArg WaitIndexMember.sessionId answers)
  member := by
    have named : memberFromResume header = wait.member := congrArg encodeMember answers
    rw [candidateMembers_head, named]

section Dispatch

variable {σ : Type} {inv : σ → Prop} {wait : RegisterWaitParams}

theorem dispatching_reads (op : Op) (reads : op.isReading = true) :
    (dispatching wait).allowed op := by
  unfold Op.isReading at reads
  split at reads <;> first | exact trivial | cases reads

theorem dispatching_of_reading {α : Type} {task : Proc σ α} (uses : task.Uses reading inv) :
    task.Uses (dispatching wait) inv :=
  uses_of_reading uses dispatching_reads

theorem hook_dispatching (name : String) :
    (hook name : Proc σ PUnit).Uses (dispatching wait) inv :=
  Task.uses_await trivial

theorem registerWait_dispatching :
    (registerWait wait : Proc σ PUnit).Uses (dispatching wait) inv := by
  refine Task.uses_failSoft (Task.uses_bind (dispatching_of_reading dateNow_reading) fun now => ?_)
  refine uses_redis_bind ⟨rfl, rfl⟩ fun _ _ => ?_
  exact Task.uses_failSoft (uses_redis_bind trivial fun _ _ => Task.uses_pure _)

theorem initializeExecution_dispatching {record : ExecutionRecord}
    (recorded : record.asks = wait.entry) :
    (initializeExecution record : Proc σ PUnit).Uses (dispatching wait) inv := by
  refine Task.uses_bind (dispatching_of_reading dateNow_reading) fun now => ?_
  refine uses_pipeline (fun command listed => ?_) trivial
  simp only [List.mem_cons, List.not_mem_nil, or_false] at listed
  rcases listed with rfl | rfl | rfl
  · intro name written inFields
    simp only [List.mem_singleton, Prod.mk.injEq, Value.execution.injEq] at inFields
    rw [inFields.2]
    exact recorded
  · intro name written inFields
    simp at inFields
  · trivial

theorem xadd_dispatching {stream : Key} {command : AskAgentCommand}
    (asks : command.header.asks = wait.entry) :
    (dispatching wait).allowed (.redis (.xadd stream (.command (.askAgent command)))) := by
  rintro carried ⟨⟩
  exact ⟨rfl, asks⟩

theorem uses_makeAsk_bind {contract : Contract effects} {β : Type} {header : MessageHeader}
    {content : JsonValue} {waitForReply : Bool} {extraPayload : JsonObject}
    {next : AskAgentCommand → Proc σ β}
    (rest : ∀ command : AskAgentCommand, command.header = header → (next command).Uses contract inv) :
    (orThrow (AskAgentCommand.make header content waitForReply extraPayload) >>= next).Uses
      contract inv := by
  cases made : AskAgentCommand.make header content waitForReply extraPayload with
  | error error => exact fun memory held => held
  | ok command => exact rest command (AskAgentCommand.make_header made)

theorem deliverCall_dispatching {input : CallAgentPublishInput} {command : AskAgentCommand}
    {record : ExecutionRecord} (availability : AvailabilityResult)
    (registered : callWait input record = wait) (asks : command.header.asks = wait.entry)
    (recorded : record.asks = wait.entry) :
    (deliverCall input command record availability : Proc σ _).Uses (dispatching wait) inv := by
  unfold deliverCall
  rw [registered]
  refine Task.uses_bind (Task.uses_when fun _ => registerWait_dispatching) fun _ => ?_
  refine Task.uses_bind (initializeExecution_dispatching recorded) fun _ => ?_
  refine Task.uses_bind (Task.uses_when fun _ => ?_) fun _ => Task.uses_pure _
  exact uses_redis_bind (xadd_dispatching asks) fun _ _ => Task.uses_pure _

theorem publishCall_dispatching {input : CallAgentPublishInput} {messageId : String}
    {parentMessageId : String}
    (parented : parentMessageId = orElseText input.parentMessageId input.defaultParentMessageId)
    (registered : ∀ executionId, callWait input (buildExecutionRecord
      (askAgentHeader input messageId parentMessageId) (.ctrlStream input.targetAgentType)
      executionId "") = wait) :
    (publishCall input messageId : Proc σ _).Uses (dispatching wait) inv := by
  subst parented
  have asked : (askAgentHeader input messageId
      (orElseText input.parentMessageId input.defaultParentMessageId)).asks = wait.entry := by
    rw [← registered ""]
    rfl
  refine uses_makeAsk_bind fun command built => ?_
  have asks : command.header.asks = wait.entry := by rw [built, asked]
  refine Task.uses_bind (dispatching_of_reading (shortId_reading _)) fun executionId => ?_
  have routed : RoutePermits (dispatching wait) (callIntent input command executionId) :=
    { reads := dispatching_reads
      wakes := by
        rintro carried ⟨⟩
        exact ⟨rfl, asks⟩
      queues := by
        rintro carried ⟨⟩
        exact ⟨rfl, asks⟩ }
  refine Task.uses_bind (prepareDelivery_uses routed) fun availability => ?_
  split
  · exact Task.uses_bind (initializeExecution_dispatching asked) fun _ => Task.uses_pure _
  · exact deliverCall_dispatching _ (registered _) asks asked

def AgentContext.waitOfCall (context : AgentContext) (params : CallAgentParams)
    (messageId : String) : RegisterWaitParams :=
  callWait (context.callInput params messageId)
    (buildExecutionRecord (askAgentHeader (context.callInput params messageId) messageId
      (orElseText params.parentMessageId context.currentMessageId))
      (.ctrlStream params.targetAgentType) "" "")

theorem start_generateMessageId_bind {α : Type} (next : String → Proc σ α) (memory : σ) :
    (generateMessageId >>= next).start memory =
      .call .uuid fun id => (next (messageIdOf id)).start memory := rfl

theorem messageIdOf_ne (id : String) : messageIdOf id ≠ "" := by
  intro empty
  have taken := congrArg String.toList empty
  simp [messageIdOf] at taken

theorem callAgent_fresh (context : AgentContext) (params : CallAgentParams)
    (unnamed : params.messageId = "") :
    (AgentContext.callAgent params).start context = .call .uuid fun id =>
      (AgentContext.callAgent { params with messageId := messageIdOf id }).start context := by
  unfold AgentContext.callAgent
  rw [if_pos unnamed]
  change @Prog.call effects _ .uuid _ = _
  refine congrArg (@Prog.call effects _ .uuid) (funext fun id => ?_)
  rw [if_neg (messageIdOf_ne id)]
  rfl

theorem waitOfCall_afterCall (context : AgentContext) (hint : RuntimeHint)
    (params : CallAgentParams) :
    (context.afterCall hint params.waitForReply).waitOfCall params params.messageId =
      context.waitOfCall params params.messageId := by
  unfold AgentContext.afterCall
  split
  · rfl
  · split <;> rfl

theorem callAgent_dispatching {context : AgentContext} {params : CallAgentParams}
    (named : params.messageId ≠ "")
    (registered : context.waitOfCall params params.messageId = wait) :
    ((AgentContext.callAgent params).start context).Uses (dispatching wait) := by
  have uses : (AgentContext.callAgent params).Uses (dispatching wait)
      fun memory => memory.waitOfCall params params.messageId = wait := by
    unfold AgentContext.callAgent
    rw [if_neg named]
    rw [pure_bind]
    refine Task.uses_get_bind fun memory current => ?_
    refine Task.uses_bind (hook_dispatching _) fun _ => ?_
    have published : (publishCallAgent (memory.callInput params params.messageId) :
        Proc AgentContext _).Uses (dispatching wait)
          fun memory => memory.waitOfCall params params.messageId = wait := by
      have given : (memory.callInput params params.messageId).messageId ≠ "" := named
      unfold publishCallAgent
      rw [if_neg given, pure_bind]
      exact publishCall_dispatching rfl fun _ => current
    refine Task.uses_bind (Task.uses_tryCatch published fun error => ?_) fun raw => ?_
    · exact Task.uses_bind (hook_dispatching _) fun _ => Task.uses_throw _
    · split
      · exact Task.uses_bind (hook_dispatching _) fun _ => Task.uses_pure _
      · refine Task.uses_bind (Task.uses_modify fun later held => ?_) fun _ => ?_
        · exact (waitOfCall_afterCall later raw.runtimeHint params).trans held
        · exact Task.uses_bind (hook_dispatching _) fun _ => Task.uses_pure _
  exact (uses context registered).mono (fun _ allowed => allowed) (fun _ _ _ => trivial)
    fun _ _ => trivial

theorem callAgent_fresh_dispatching (context : AgentContext) (params : CallAgentParams)
    (unnamed : params.messageId = "") :
    ∃ resume, (AgentContext.callAgent params).start context = .call .uuid resume ∧
      ∀ id, context.waitOfCall params (messageIdOf id) = wait →
        (resume id).Uses (dispatching wait) := by
  refine ⟨_, callAgent_fresh context params unnamed, fun id registered => ?_⟩
  have named : ({ params with messageId := messageIdOf id } : CallAgentParams).messageId ≠ "" :=
    messageIdOf_ne id
  exact callAgent_dispatching named registered

/-- The context still names the same run, and has queued no reply but what answers `wait`. -/
structure QueuesFor (wait : RegisterWaitParams) (context later : AgentContext) : Prop where
  sessionId : later.sessionId = context.sessionId
  currentMessageId : later.currentMessageId = context.currentMessageId
  queued : ∀ reply ∈ later.pendingGroupReplies,
    reply ∈ context.pendingGroupReplies ∨ Clears wait reply.header

section Members

variable {context : AgentContext} {member : AgentContext.GroupMember}
  (registered : context.memberWait member = wait)
include registered

theorem memberWait_of_queues {later : AgentContext} (queues : QueuesFor wait context later) :
    later.memberWait member = wait := by
  rw [← registered]
  simp only [AgentContext.memberWait, queues.sessionId]

theorem publishMember_dispatching {command : AskAgentCommand}
    (asks : command.header.asks = wait.entry) :
    (AgentContext.publishMember member command).Uses (dispatching wait)
      (QueuesFor wait context) := by
  refine Task.uses_get_bind fun later queues => ?_
  have named := memberWait_of_queues registered queues
  refine Task.uses_bind (dispatching_of_reading (shortId_reading _)) fun executionId => ?_
  have recorded : (later.memberRecord member executionId).asks = wait.entry := by
    rw [← named]
    rfl
  refine Task.uses_bind (initializeExecution_dispatching recorded) fun _ => ?_
  rw [named]
  refine Task.uses_bind (Task.uses_when fun _ => registerWait_dispatching) fun _ => ?_
  refine Task.uses_bind (Task.uses_tryCatch ?_ fun error => ?_) fun _ => hook_dispatching _
  · exact uses_redis_bind (xadd_dispatching asks) fun _ _ => Task.uses_pure _
  · refine Task.uses_bind (hook_dispatching _) fun _ => ?_
    refine Task.uses_bind (Task.uses_when fun _ => Task.uses_failSoft ?_) fun _ => Task.uses_throw _
    refine uses_redis_bind ?_ fun _ _ => Task.uses_pure _
    intro name record inFields
    simp at inFields

theorem queueUndispatchedMemberFailure_dispatching :
    (AgentContext.queueUndispatchedMemberFailure member).Uses (dispatching wait)
      (QueuesFor wait context) := by
  refine Task.uses_get_bind fun later queues => ?_
  have named := memberWait_of_queues registered queues
  rw [named]
  refine Task.uses_bind registerWait_dispatching fun _ => ?_
  split
  · exact Task.uses_pure _
  · refine uses_standInReply_bind (dispatching_reads _ rfl) fun traceId reply built => ?_
    have answers : reply.header.answers = wait.entry := by
      rw [built, ← named]
      rfl
    refine Task.uses_modify fun last held =>
      ⟨held.sessionId, held.currentMessageId, fun queued listed => ?_⟩
    rcases List.mem_append.mp listed with earlier | added
    · exact held.queued queued earlier
    · rw [List.mem_singleton.mp added]
      exact .inr (clears_of_answers answers)

theorem failMember_dispatching :
    (AgentContext.failMember member).Uses (dispatching wait) (QueuesFor wait context) := by
  refine Task.uses_get_bind fun later queues => ?_
  have named := memberWait_of_queues registered queues
  refine Task.uses_bind (dispatching_of_reading (shortId_reading _)) fun executionId => ?_
  have recorded : (later.memberRecord member executionId).asks = wait.entry := by
    rw [← named]
    rfl
  refine Task.uses_bind (initializeExecution_dispatching recorded) fun _ => ?_
  refine Task.uses_bind (queueUndispatchedMemberFailure_dispatching registered) fun _ => ?_
  exact hook_dispatching _

end Members

theorem dispatchMember_dispatching (context : AgentContext) (taskGroupId : String)
    (params : DispatchGroupParams) (task : GroupTask) :
    ∃ resume, (AgentContext.dispatchMember taskGroupId params task).start context =
        .call .uuid resume ∧
      ∀ id, context.memberWait
          { taskGroupId := taskGroupId
            messageId := messageIdOf id
            parentMessageId := orElseText params.parentMessageId context.currentMessageId
            task := task
            wait := params.waitForReply
            replyTimeoutMs := params.replyTimeoutMs } = wait →
        (resume id).Uses (dispatching wait) fun outcome => QueuesFor wait context outcome.2 := by
  refine ⟨_, start_generateMessageId_bind _ _, fun id registered => ?_⟩
  refine (show Task.Uses (dispatching wait) (QueuesFor wait context) _ from ?_) context
    ⟨rfl, rfl, fun reply listed => .inl listed⟩
  refine Task.uses_get_bind fun later queues => ?_
  rw [queues.currentMessageId]
  have named := memberWait_of_queues registered queues
  refine uses_makeAsk_bind fun command built => ?_
  have asks : command.header.asks = wait.entry := by
    rw [built, ← named]
    rfl
  refine Task.uses_bind (hook_dispatching _) fun _ => ?_
  refine Task.uses_bind ?_ fun online => ?_
  · split
    · exact Task.uses_tryCatch (Task.uses_bind (dispatching_of_reading
        (hasOnlineAgentType_reading _)) fun _ => Task.uses_pure _) fun _ => Task.uses_pure _
    · exact Task.uses_pure _
  · dsimp only
    split
    · exact Task.uses_bind (publishMember_dispatching registered asks) fun _ => Task.uses_pure _
    · exact Task.uses_bind (failMember_dispatching registered) fun _ => Task.uses_pure _

end Dispatch

/-! ### Replying -/

section Reply

variable {σ : Type} {inv : σ → Prop} {wait : RegisterWaitParams}

theorem answering_background (op : Op) (quiet : op.isBackground = true) :
    (answering wait).allowed op := by
  cases op with
  | redis command =>
      cases command with
      | xadd stream value => simp [Op.isBackground, backgroundCommand] at quiet
      | _ => trivial
  | _ => trivial

theorem answering_of_background {α : Type} {task : Proc σ α} (uses : task.Uses background inv) :
    task.Uses (answering wait) inv :=
  uses_of_background uses answering_background

theorem xadd_answering {stream : Key} {reply : ResumeCommand}
    (answers : reply.header.answers = wait.entry) :
    (answering wait).allowed (.redis (.xadd stream (.command (.resume reply)))) :=
  clears_of_answers answers

theorem persistSingleCallResult_answering (header : MessageHeader) (callback : ResumeCommand) :
    (persistSingleCallResult header callback : Proc σ PUnit).Uses (answering wait) inv := by
  unfold persistSingleCallResult
  split
  · exact Task.uses_pure _
  · refine Task.uses_failSoft (uses_redis_bind trivial fun _ _ => ?_)
    exact uses_redis_bind trivial fun _ _ => Task.uses_pure _

theorem xaddWithRetry_answering {stream : Key} {callback : ResumeCommand}
    (answers : callback.header.answers = wait.entry) (retries : Nat) :
    (xaddWithRetry stream callback retries : Proc σ PUnit).Uses (answering wait) inv := by
  induction retries with
  | zero => exact uses_redis_bind (xadd_answering answers) fun _ _ => Task.uses_pure _
  | succ retries ih =>
      refine Task.uses_tryCatch ?_ fun _ => ih
      exact uses_redis_bind (xadd_answering answers) fun _ _ => Task.uses_pure _

section Builders

variable {header : MessageHeader} (asks : header.asks = wait.entry)
  (caller : wait.parentMessageId ≠ "")
include asks caller

theorem parented_of_asks : header.parentMessageId ≠ "" := by
  have parent : header.parentMessageId = wait.parentMessageId :=
    congrArg WaitIndexMember.parentMessageId asks
  rw [parent]
  exact caller

/-- The reply to a header that asks for `wait` clears `wait`. -/
theorem enqueueAgentReturn_answering (workerId status : String) (agentReturn : AgentReturn) :
    (enqueueAgentReturn workerId header status agentReturn : Proc σ PUnit).Uses
      (answering wait) inv := by
  unfold enqueueAgentReturn
  split
  · exact Task.uses_pure _
  · rw [if_neg (parented_of_asks asks caller), pure_bind]
    refine uses_makeResume_bind fun callback built => ?_
    have answers : callback.header.answers = wait.entry := by
      rw [built]
      exact asks
    refine Task.uses_bind (persistSingleCallResult_answering _ _) fun _ => ?_
    exact xaddWithRetry_answering answers _

theorem enqueueCallback_answering (workerId status : String) (agentReturn : AgentReturn) :
    (GatewayProcessor.enqueueCallback workerId header status agentReturn : Proc σ PUnit).Uses
      (answering wait) inv := by
  unfold GatewayProcessor.enqueueCallback
  rw [if_neg (parented_of_asks asks caller), pure_bind]
  refine Task.uses_bind ?_ fun traceId => ?_
  · split
    · exact answering_of_background plainId_background
    · exact Task.uses_pure _
  · refine uses_makeResume_bind fun callback built => ?_
    have answers : callback.header.answers = wait.entry := by
      rw [built]
      exact asks
    exact uses_redis_bind (xadd_answering answers) fun _ _ => Task.uses_pure _

end Builders

theorem resolveReplyCommand_fresh {command reply : GatewayCommand}
    {existing : Option ExecutionRecord} (asked : asksFor wait command)
    (resolved : resolveReplyCommand command existing = some reply) :
    reply.header.asks = wait.entry := by
  cases command with
  | resume resume => cases asked.1
  | askAgent ask | cancelTask ask | suspendWorker ask | resumeWorker ask | evictWorker ask =>
      simp only [resolveReplyCommand] at resolved
      split at resolved
      · cases resolved
      · cases resolved
        exact asked.2

theorem resolveReplyCommand_resumed {resume : ResumeCommand} {record : ExecutionRecord}
    {reply : GatewayCommand} (sessionId : resume.header.sessionId = wait.sessionId)
    (child : resume.header.messageId = wait.childMessageId) (intact : record.asks = wait.entry)
    (resolved : resolveReplyCommand (.resume resume) (some record) = some reply) :
    reply.header.asks = wait.entry := by
  have parent := congrArg WaitIndexMember.parentMessageId intact
  have group := congrArg WaitIndexMember.taskGroupId intact
  simp only [resolveReplyCommand] at resolved
  split at resolved
  · cases resolved
  · cases resolved
    simp only [GatewayCommand.header, originalHeader, MessageHeader.asks, sessionId, child]
    simp only [ExecutionRecord.asks] at parent group
    rw [parent, group]
    rfl

theorem resolveReplyHeader_fresh {command : GatewayCommand} {snapshot : Option ExecutionRecord}
    {header : MessageHeader} (asked : asksFor wait command)
    (resolved : GatewayProcessor.resolveReplyHeader command snapshot = some header) :
    header.asks = wait.entry := by
  cases command with
  | resume resume => cases asked.1
  | askAgent ask | cancelTask ask | suspendWorker ask | resumeWorker ask | evictWorker ask =>
      simp only [GatewayProcessor.resolveReplyHeader] at resolved
      split at resolved
      · cases resolved
      · cases resolved
        exact asked.2

theorem resolveReplyHeader_resumed {resume : ResumeCommand} {record : ExecutionRecord}
    {header : MessageHeader} (sessionId : resume.header.sessionId = wait.sessionId)
    (child : resume.header.messageId = wait.childMessageId) (intact : record.asks = wait.entry)
    (resolved : GatewayProcessor.resolveReplyHeader (.resume resume) (some record) = some header) :
    header.asks = wait.entry := by
  have parent := congrArg WaitIndexMember.parentMessageId intact
  have group := congrArg WaitIndexMember.taskGroupId intact
  simp only [GatewayProcessor.resolveReplyHeader] at resolved
  split at resolved
  · cases resolved
  · cases resolved
    simp only [MessageHeader.asks, sessionId, child]
    simp only [ExecutionRecord.asks] at parent group
    rw [parent, group]
    rfl

theorem answering_entry {due : DueEntry} (entry : due.entry = wait.entry) :
    EntryPermits (answering wait) due where
  quiet := answering_background
  reads _ _ := trivial
  removes _ _ := trivial
  renews _ := trivial
  cancels _ _ := trivial
  answers _ _ answers := xadd_answering (answers.trans entry)

theorem resolveEntry_answering (options : SweeperOptions) (indexKey : Key) (score : Int) :
    (resolveEntry options indexKey wait.member score : Proc σ _).Uses (answering wait) inv := by
  have decoded : decodeMember wait.member = .ok wait.entry := decodeMember_encodeMember wait.entry
  unfold resolveEntry
  rw [decoded]
  exact resolveDecoded_entry (answering_entry rfl)

theorem flushPendingGroupReplies_answering {replies : List ResumeCommand}
    (clear : ∀ reply ∈ replies, Clears wait reply.header) :
    (flushPendingGroupReplies replies : Proc σ PUnit).Uses (answering wait) inv := by
  refine Task.uses_forEach _ fun reply listed => Task.uses_failSoft ?_
  exact uses_redis_bind (clear reply listed) fun _ _ => Task.uses_pure _

end Reply

/-- The record of the callee of `wait`, if it is one, still holds the ids of its dispatch. -/
def Intact (wait : RegisterWaitParams) (record : ExecutionRecord) : Prop :=
  record.messageId = wait.childMessageId → record.asks = wait.entry

def keepingIntact (wait : RegisterWaitParams) : Contract effects where
  allowed op := match op with
    | .redis (.hset _ fields) => ∀ name record, (name, Value.execution record) ∈ fields →
        Intact wait record
    | _ => True
  expected op reply := match op, reply with
    | .redis (.hget _ _), .ok (some (.execution record)) => Intact wait record
    | _, _ => True

section Records

variable {σ : Type} {inv : σ → Prop} {wait : RegisterWaitParams}

theorem changeExecution_intact {executionId sessionId : String}
    {change : Int → ExecutionRecord → ExecutionRecord}
    (kept : ∀ now record, (change now record).asks = record.asks) :
    (changeExecution executionId sessionId change : Proc σ PUnit).Uses (keepingIntact wait) inv := by
  have writes (now : Int) {record : ExecutionRecord} (intact : Intact wait record) :
      (writeExecution sessionId executionId (change now record) : Proc σ PUnit).Uses
        (keepingIntact wait) inv := by
    refine uses_pipeline (fun command listed => ?_) trivial
    simp only [List.mem_cons, List.not_mem_nil, or_false] at listed
    rcases listed with rfl | rfl
    · intro name written inFields
      simp only [List.mem_singleton, Prod.mk.injEq, Value.execution.injEq] at inFields
      rw [inFields.2]
      intro child
      have same := kept now record
      have named : record.messageId = wait.childMessageId :=
        (congrArg WaitIndexMember.childMessageId same).symm.trans child
      exact same.trans (intact named)
    · trivial
  refine uses_getExecution_bind trivial (Task.uses_pure _) fun record intact => ?_
  exact Task.uses_bind (Task.uses_await trivial) fun now => writes now intact

theorem recordRunning_intact (worker : GatewayWorker) (streamName : Key) (msgId : Nat)
    (command : GatewayCommand) (executionId : String) (existing : ExecutionRecord) :
    (worker.recordRunning streamName msgId command executionId (some existing) :
      Proc σ PUnit).Uses (keepingIntact wait) inv := by
  refine changeExecution_intact fun now record => ?_
  dsimp only
  split <;> rfl

theorem markExecutionFinished_intact (executionId sessionId status : String) :
    (markExecutionFinished executionId sessionId status : Proc σ PUnit).Uses
      (keepingIntact wait) inv := by
  refine changeExecution_intact fun now record => ?_
  dsimp only
  split <;> rfl

end Records

/-! ### Agreement -/

/-- The dispatches that register `wait`, the updates of its callee's record, and the replies to
it: each speaks of the one member in the one shard. -/
structure WaitAgrees (wait : RegisterWaitParams) : Prop where
  call : ∀ (context : AgentContext) (params : CallAgentParams), params.messageId ≠ "" →
    context.waitOfCall params params.messageId = wait →
      ((AgentContext.callAgent params).start context).Uses (dispatching wait)
  freshCall : ∀ (context : AgentContext) (params : CallAgentParams), params.messageId = "" →
    ∃ resume, (AgentContext.callAgent params).start context = .call .uuid resume ∧
      ∀ id, context.waitOfCall params (messageIdOf id) = wait →
        (resume id).Uses (dispatching wait)
  groupMember : ∀ (context : AgentContext) (taskGroupId : String) (params : DispatchGroupParams)
    (task : GroupTask), ∃ resume,
      (AgentContext.dispatchMember taskGroupId params task).start context = .call .uuid resume ∧
      ∀ id, context.memberWait
          { taskGroupId := taskGroupId
            messageId := messageIdOf id
            parentMessageId := orElseText params.parentMessageId context.currentMessageId
            task := task
            wait := params.waitForReply
            replyTimeoutMs := params.replyTimeoutMs } = wait →
        (resume id).Uses (dispatching wait) fun outcome => QueuesFor wait context outcome.2
  standIns : ∀ replies : List ResumeCommand, (∀ reply ∈ replies, Clears wait reply.header) →
    (flushPendingGroupReplies replies : Proc AgentContext PUnit).Uses (answering wait)
  fresh : ∀ (workerId status : String) (agentReturn : AgentReturn) (command reply : GatewayCommand)
    (existing : Option ExecutionRecord), asksFor wait command →
      resolveReplyCommand command existing = some reply →
        (enqueueAgentReturn workerId reply.header status agentReturn :
          Proc MessageRun PUnit).Uses (answering wait)
  resumed : ∀ (workerId status : String) (agentReturn : AgentReturn) (resume : ResumeCommand)
    (record : ExecutionRecord) (reply : GatewayCommand),
      resume.header.sessionId = wait.sessionId → resume.header.messageId = wait.childMessageId →
        record.asks = wait.entry →
          resolveReplyCommand (.resume resume) (some record) = some reply →
            (enqueueAgentReturn workerId reply.header status agentReturn :
              Proc MessageRun PUnit).Uses (answering wait)
  processorFresh : ∀ (workerId status : String) (agentReturn : AgentReturn)
    (command : GatewayCommand) (snapshot : Option ExecutionRecord) (header : MessageHeader),
      asksFor wait command → GatewayProcessor.resolveReplyHeader command snapshot = some header →
        (GatewayProcessor.enqueueCallback workerId header status agentReturn :
          Proc AgentContext PUnit).Uses (answering wait)
  processorResumed : ∀ (workerId status : String) (agentReturn : AgentReturn)
    (resume : ResumeCommand) (record : ExecutionRecord) (header : MessageHeader),
      resume.header.sessionId = wait.sessionId → resume.header.messageId = wait.childMessageId →
        record.asks = wait.entry →
          GatewayProcessor.resolveReplyHeader (.resume resume) (some record) = some header →
            (GatewayProcessor.enqueueCallback workerId header status agentReturn :
              Proc AgentContext PUnit).Uses (answering wait)
  sweep : ∀ (options : SweeperOptions) (score : Int),
    (resolveEntry options (waitIndexKey wait.sessionId) wait.member score :
      Proc SweeperMemory SweepOutcome).Uses (answering wait)
  claimed : ∀ (worker : GatewayWorker) (streamName : Key) (msgId : Nat) (command : GatewayCommand)
    (executionId : String) (existing : ExecutionRecord),
      (worker.recordRunning streamName msgId command executionId (some existing) :
        Proc Unit PUnit).Uses (keepingIntact wait)
  finished : ∀ executionId sessionId status,
    (markExecutionFinished executionId sessionId status : Proc Unit PUnit).Uses
      (keepingIntact wait)
  cancelling : ∀ executionId sessionId reason,
    (markExecutionCancelling executionId sessionId reason : Proc Unit PUnit).Uses
      (keepingIntact wait)
  cancelRequested : ∀ executionId sessionId reason,
    (markCancelRequested executionId sessionId reason : Proc Unit PUnit).Uses (keepingIntact wait)

-- Checking the fields must not set out to decode a member that is not known.
attribute [local irreducible] decodeMember in
theorem wait_member_agrees (wait : RegisterWaitParams) (caller : wait.parentMessageId ≠ "") :
    WaitAgrees wait where
  call _ _ named registered := callAgent_dispatching named registered
  freshCall context params unnamed := callAgent_fresh_dispatching context params unnamed
  groupMember context taskGroupId params task :=
    dispatchMember_dispatching context taskGroupId params task
  standIns _ clear := flushPendingGroupReplies_answering clear
  fresh _ _ _ _ _ _ asked resolved :=
    enqueueAgentReturn_answering (resolveReplyCommand_fresh asked resolved) caller _ _ _
  resumed _ _ _ _ _ _ sessionId child intact resolved :=
    enqueueAgentReturn_answering
      (resolveReplyCommand_resumed sessionId child intact resolved) caller _ _ _
  processorFresh _ _ _ _ _ _ asked resolved :=
    enqueueCallback_answering (resolveReplyHeader_fresh asked resolved) caller _ _ _
  processorResumed _ _ _ _ _ _ sessionId child intact resolved :=
    enqueueCallback_answering
      (resolveReplyHeader_resumed sessionId child intact resolved) caller _ _ _
  sweep options score := resolveEntry_answering options _ score
  claimed worker streamName msgId command executionId existing :=
    recordRunning_intact worker streamName msgId command executionId existing
  finished executionId sessionId status := markExecutionFinished_intact executionId sessionId status
  cancelling _ _ _ := changeExecution_intact fun _ _ => rfl
  cancelRequested _ _ _ := changeExecution_intact fun _ _ => rfl

/-- The wait of a member of a Task Group whose session id holds the separator. -/
def barredWait : RegisterWaitParams :=
  { sessionId := "room|7"
    parentMessageId := "msg-caller"
    childMessageId := "msg-child"
    taskGroupId := "tg-group"
    timeoutMs := 1000 }

theorem wait_member_agrees_barred :
    barredWait.parentMessageId ≠ "" ∧ WaitAgrees barredWait :=
  ⟨by decide, wait_member_agrees barredWait (by decide)⟩

end ByFramework
