import ByFramework.DispatchCore
import ByFramework.WaitReplyCore
import ByFramework.GroupJoinCore
import ByFramework.Hash.Md5

/-! The context of one handler run: what it may call, and what the framework keeps of it. -/

namespace ByFramework

open Async

/-- The parts of an `AgentContext` that outlive a call on it. -/
structure AgentContext where
  sessionId : String
  traceId : String
  currentAgentType : String
  currentMessageId : String
  currentCommand : GatewayCommand
  workerId : String
  cancelSignal : Option Nat := none
  cancelReason : String := ""
  executionId : String := ""
  responseBuffer : List String := []
  historySaved : Bool := false
  suspendedState : String := ""
  isSuspended : Bool := false
  permissionTransferred : Bool := false
  pendingGroupReplies : List ResumeCommand := []
  isStreamFinished : Bool := false
  isFinalAnswerEmitted : Bool := false
  traceParentObservationId : String := ""

structure CallAgentParams where
  targetAgentType : String
  content : JsonValue
  extraPayload : JsonObject := []
  waitForReply : Bool := true
  metadata : JsonObject := []
  messageId : String := ""
  parentMessageId : String := ""
  routePolicy : RoutePolicy := .failFast
  availabilityTimeoutMs : Option Int := none
  region : String := ""
  priority : Int := 0
  replyTimeoutMs : Option Int := none

structure CallAgentResult where
  status : String
  messageId : String
  parentMessageId : String
  targetAgentType : String
  error : String
  errorCode : String
deriving DecidableEq, Repr

structure GroupTask where
  targetAgentType : String
  content : String
  payload : JsonObject := []
  metadata : JsonObject := []

structure DispatchGroupParams where
  tasks : List GroupTask
  waitForReply : Bool := true
  parentMessageId : String := ""
  replyTimeoutMs : Option Int := none

structure DispatchedTask where
  messageId : String
  targetAgentType : String
deriving DecidableEq, Repr

structure DispatchGroupResult where
  status : String
  taskGroupId : String
  dispatchedTasks : List DispatchedTask
deriving DecidableEq, Repr

/-- The span id of a string that is not itself one, as those of a dispatch never are. -/
def spanIdHex (text : String) : String :=
  let digest := (Hash.md5Hex text).toList.take 16
  String.ofList (if digest.all (· = '0') then List.replicate 15 '0' ++ ['1'] else digest)

/-- The metadata a dispatch adds to the caller's own. -/
def dispatchMetadata (metadata : JsonObject) (messageId : String) : JsonObject :=
  let callParentSpanId := messageId ++ ":client.dispatch"
  spread metadata
    [("trace_parent_span_id", .string (spanIdHex callParentSpanId)),
      ("framework_parent_span_id", .string callParentSpanId)]

namespace AgentContext

/-- The header of the command that is running, unless a resume started the run. -/
def askHeader (context : AgentContext) : Option MessageHeader :=
  match context.currentCommand with
  | .askAgent command => some command.header
  | _ => none

def inheritedUserCode (context : AgentContext) : String :=
  (context.askHeader.map MessageHeader.userCode).getD ""

def inheritedUserName (context : AgentContext) : String :=
  (context.askHeader.map MessageHeader.userName).getD ""

def inheritedTaskGroupId (context : AgentContext) : String :=
  (context.askHeader.map MessageHeader.taskGroupId).getD ""

def currentParentMessageId (context : AgentContext) : String :=
  let parentMessageId := trim context.currentCommand.header.parentMessageId
  if parentMessageId = "" then "-1" else parentMessageId

def dataMessage (context : AgentContext) (eventType : String) : DataMessage :=
  { traceId := context.traceId
    sessionId := context.sessionId
    eventType := eventType
    sourceAgentType := context.currentAgentType
    messageId := context.currentMessageId
    parentMessageId := context.currentParentMessageId }

def layout (context : AgentContext) (content : String) (role : JsonValue) (contentType : String) :
    SseLayoutParams :=
  { content := content
    role := role
    contentType := contentType
    orderId := context.currentMessageId
    parentOrderId := context.currentParentMessageId }

/-- The execution is suspended in `state`. -/
def suspend (context : AgentContext) (state : String) : AgentContext :=
  { context with isSuspended := true, suspendedState := state }

def flushToHistory : Proc AgentContext PUnit := do
  let context ← get
  if context.historySaved ∨ context.responseBuffer = [] then pure ⟨⟩
  else
    saveMessage context.sessionId "assistant" (.string (String.join context.responseBuffer))
      [("trace_id", .string context.traceId), ("agent_id", .string context.currentAgentType),
        ("message_id", .string context.currentMessageId)]
    modify fun context => { context with historySaved := true }

/-- Whatever ends the stream also flushes the history. -/
def emitChunk (content eventType : String) : Proc AgentContext PUnit := do
  modify fun context => if content = "" then context
    else { context with responseBuffer := context.responseBuffer ++ [content] }
  let context ← get
  emitLayout (context.dataMessage (orElseText eventType EventType.answerDelta))
    (context.layout content (.string "assistant") SseMessageType.text)
  Task.when (eventType = EventType.appStreamResponse) do
    modify fun context => { context with isStreamFinished := true }
    flushToHistory

def emitState (state : String) : Proc AgentContext PUnit := do
  let context ← get
  emitLayout (context.dataMessage EventType.reasoningLogDelta)
    (context.layout state .null SseMessageType.thinkTitle)

def inputForm (prompt : String) : String :=
  "\x7b\"formStatus\":0,\"pluginMachineFields\":[\x7b\"formType\":\"textarea\"," ++
    "\"fieldName\":\"用户输入\",\"fieldCode\":\"user_input\",\"description\":" ++
    jsonQuote prompt ++ ",\"required\":true\x7d]\x7d"

def askUser (prompt : String) (replyTimeoutMs : Option Int) : Proc AgentContext PUnit := do
  let context ← get
  registerWait
    { sessionId := context.sessionId
      parentMessageId := context.currentMessageId
      childMessageId := ""
      timeoutMs := replyTimeoutMs.getD defaultAskUserTimeoutMs }
  emitLayout (context.dataMessage EventType.reasoningLogDelta)
    (context.layout (inputForm prompt) (.string "assistant") SseMessageType.taskUserInput)
  modify fun context => context.suspend AgentState.waitingUser

/-- Why a signal was raised, if there is one and it was. -/
def abortReason {σ : Type} (workerId : String) : Option Nat → Proc σ (Option String)
  | none => pure none
  | some controller => ofProcess workerId (.abortReason controller)

def checkCancelled : Proc AgentContext PUnit := do
  let context ← get
  match ← abortReason context.workerId context.cancelSignal with
  | none => pure ⟨⟩
  | some reason => throw (taskCancelledError
      (orElseText context.cancelReason (orElseText reason "task cancelled")))

/-! ### Single calls -/

def callInput (context : AgentContext) (params : CallAgentParams) (messageId : String) :
    CallAgentPublishInput :=
  { sessionId := context.sessionId
    traceId := context.traceId
    sourceAgentType := context.currentAgentType
    defaultParentMessageId := context.currentMessageId
    targetAgentType := params.targetAgentType
    content := params.content
    extraPayload := params.extraPayload
    waitForReply := params.waitForReply
    userCode := context.inheritedUserCode
    userName := context.inheritedUserName
    taskGroupId := context.inheritedTaskGroupId
    metadata := dispatchMetadata params.metadata messageId
    messageId := messageId
    parentMessageId := params.parentMessageId
    routePolicy := params.routePolicy
    availabilityTimeoutMs := params.availabilityTimeoutMs
    region := params.region
    priority := params.priority
    replyTimeoutMs := params.replyTimeoutMs
    langfuseParentObservationId := context.traceParentObservationId }

/-- What a call that went out makes of the calling run. -/
def afterCall (context : AgentContext) (hint : RuntimeHint) (waitForReply : Bool) : AgentContext :=
  if hint = .suspend ∨ waitForReply then context.suspend AgentState.waitingAgent
  else if hint = .transfer then { context with permissionTransferred := true }
  else context

def callResult (raw : CallAgentPublishResult) : CallAgentResult where
  status := raw.status
  messageId := raw.messageId
  parentMessageId := raw.parentMessageId
  targetAgentType := raw.targetAgentType
  error := raw.error
  errorCode := raw.errorCode

def callAgent (params : CallAgentParams) : Proc AgentContext CallAgentResult := do
  let messageId ← (if params.messageId = "" then generateMessageId else pure params.messageId)
  let context ← get
  hook "onCallAgentStart"
  let raw ← tryCatch (publishCallAgent (context.callInput params messageId)) fun error => do
    hook "onCallAgentError"
    throw error
  if raw.status = AgentState.failed then
    hook "onCallAgentError"
    pure (callResult raw)
  else
    modify fun context => context.afterCall raw.runtimeHint params.waitForReply
    hook "onCallAgentComplete"
    pure (callResult raw)

/-! ### Task Groups -/

def beginGroup (taskGroupId : String) (total : Nat) (wait : Bool) : Proc AgentContext PUnit := do
  let context ← get
  if wait then
    let groupKey := Key.taskGroup taskGroupId
    let _ ← redis (.hset groupKey
      [(taskGroupFieldTotal, .number total), (taskGroupFieldCompleted, .number 0),
        ("source_agent_type", .text context.currentAgentType)])
    let _ ← redis (.expire groupKey taskGroupTtlSeconds)
    modify fun context => context.suspend AgentState.waitingAgent
  else modify fun context => { context with permissionTransferred := true }

structure GroupMember where
  taskGroupId : String
  messageId : String
  parentMessageId : String
  task : GroupTask
  wait : Bool
  replyTimeoutMs : Option Int

def memberHeader (context : AgentContext) (member : GroupMember) : MessageHeader :=
  { messageId := member.messageId
    sessionId := context.sessionId
    traceId := context.traceId
    sourceAgentType := if member.wait then context.currentAgentType else ""
    targetAgentType := member.task.targetAgentType
    parentMessageId := member.parentMessageId
    taskGroupId := member.taskGroupId
    metadata := dispatchMetadata member.task.metadata member.messageId
    traceParentSpanId := spanIdHex (member.messageId ++ ":client.dispatch")
    langfuseParentObservationId := context.traceParentObservationId }

def memberRecord (context : AgentContext) (member : GroupMember) (executionId : String) :
    ExecutionRecord :=
  { executionId := executionId
    messageId := member.messageId
    parentMessageId := member.parentMessageId
    sessionId := context.sessionId
    traceId := context.traceId
    sourceAgentType := if member.wait then context.currentAgentType else ""
    taskGroupId := member.taskGroupId
    metadata := dispatchMetadata member.task.metadata member.messageId
    streamName := some (.ctrlStream member.task.targetAgentType)
    targetAgentType := member.task.targetAgentType
    status := AgentState.queued }

def memberWait (context : AgentContext) (member : GroupMember) : RegisterWaitParams :=
  { sessionId := context.sessionId
    parentMessageId := member.parentMessageId
    childMessageId := member.messageId
    taskGroupId := member.taskGroupId
    timeoutMs := member.replyTimeoutMs.getD defaultReplyTimeoutMs }

/-- Whether a worker is online for the type; a probe that fails says there is. -/
def probeGroupMemberOnline (targetAgentType : String) : Proc AgentContext Bool :=
  tryCatch (do
      let online ← hasOnlineAgentType targetAgentType
      pure (!online.isEmpty))
    fun _ => pure true

def noAliveWorker (targetAgentType : String) : String :=
  "No alive worker found with agent type '" ++ targetAgentType ++ "'"

def undispatchedReply (context : AgentContext) (member : GroupMember) : StandInReplyParams :=
  { sessionId := context.sessionId
    callerMessageId := member.parentMessageId
    callerAgentType := context.currentAgentType
    childMessageId := member.messageId
    childAgentType := member.task.targetAgentType
    taskGroupId := member.taskGroupId
    traceId := context.traceId
    status := AgentState.failed
    replyData := failureReplyData (noAliveWorker member.task.targetAgentType) agentTypeNotFound
      member.messageId
    metadata := dispatchMetadata member.task.metadata member.messageId
    errorCode := agentTypeNotFound
    synthesizedBy := synthesizedByDispatch
    userCode := context.inheritedUserCode
    userName := context.inheritedUserName }

def queueUndispatchedMemberFailure (member : GroupMember) : Proc AgentContext PUnit := do
  let context ← get
  registerWait (context.memberWait member)
  if context.currentAgentType = "" then pure ⟨⟩
  else
    let reply ← standInReply (context.undispatchedReply member)
    modify fun context =>
      { context with pendingGroupReplies := context.pendingGroupReplies ++ [reply] }

/-- Record the member as failed where a reply is owed but nobody can give it. -/
def failMember (member : GroupMember) : Proc AgentContext PUnit := do
  let context ← get
  let executionId ← generateExecutionId
  initializeExecution { context.memberRecord member executionId with
    sourceAgentType := context.currentAgentType
    status := AgentState.failed
    availabilityError := noAliveWorker member.task.targetAgentType
    availabilityErrorCode := agentTypeNotFound }
  queueUndispatchedMemberFailure member
  hook "onCallAgentError"

def abortGroup (member : GroupMember) (error : JsError) : Proc AgentContext PUnit := do
  hook "onCallAgentError"
  Task.when member.wait (Task.failSoft do
    let _ ← redis (.hset (.taskGroup member.taskGroupId) [(taskGroupFieldAborted, .number 1)]))
  throw error

def publishMember (member : GroupMember) (command : AskAgentCommand) :
    Proc AgentContext PUnit := do
  let context ← get
  let executionId ← generateExecutionId
  initializeExecution (context.memberRecord member executionId)
  Task.when member.wait (registerWait (context.memberWait member))
  tryCatch (do
      let _ ← redis (.xadd (.ctrlStream member.task.targetAgentType)
        (.command (.askAgent command))))
    (abortGroup member)
  hook "onCallAgentComplete"

/-- Dispatch one member; one that is out of reach is answered in its place. -/
def dispatchMember (taskGroupId : String) (params : DispatchGroupParams) (task : GroupTask) :
    Proc AgentContext DispatchedTask := do
  let messageId ← generateMessageId
  let context ← get
  let member : GroupMember :=
    { taskGroupId := taskGroupId
      messageId := messageId
      parentMessageId := orElseText params.parentMessageId context.currentMessageId
      task := task
      wait := params.waitForReply
      replyTimeoutMs := params.replyTimeoutMs }
  let command ← orThrow (AskAgentCommand.make (context.memberHeader member)
    (.string task.content) params.waitForReply (dropWaitForReply task.payload))
  hook "onCallAgentStart"
  let online ← (if params.waitForReply then probeGroupMemberOnline task.targetAgentType
    else pure true)
  if online then publishMember member command else failMember member
  pure ⟨messageId, task.targetAgentType⟩

def dispatchGroup (params : DispatchGroupParams) : Proc AgentContext DispatchGroupResult := do
  if params.tasks.isEmpty then pure ⟨"EMPTY", "", []⟩
  else
    let taskGroupId ← shortId "tg-"
    beginGroup taskGroupId params.tasks.length params.waitForReply
    let dispatched ← Task.mapEach params.tasks (dispatchMember taskGroupId params)
    pure ⟨"GROUP_QUEUED", taskGroupId, dispatched⟩

/-- Hand over the queued stand-ins, clearing the queue. -/
def takePendingGroupReplies : Proc AgentContext (List ResumeCommand) := do
  let context ← get
  modify fun context => { context with pendingGroupReplies := [] }
  pure context.pendingGroupReplies

end AgentContext

/-- What a `processCommand` does, call by call on its context, and what it makes of each answer. -/
inductive Handler where
  | returns (value : HandlerValue)
  | throws (error : JsError)
  | callAgent (params : CallAgentParams) (next : Except JsError CallAgentResult → Handler)
  | dispatchGroup (params : DispatchGroupParams)
      (next : Except JsError DispatchGroupResult → Handler)
  | askUser (prompt : String) (replyTimeoutMs : Option Int)
      (next : Except JsError Unit → Handler)
  | emitChunk (content eventType : String) (next : Except JsError Unit → Handler)
  | emitState (state : String) (next : Except JsError Unit → Handler)
  | flushToHistory (next : Except JsError Unit → Handler)
  | checkCancelled (next : Except JsError Unit → Handler)
  | setFinalAnswerEmitted (emitted : Bool) (next : Handler)
  | setStreamFinished (finished : Bool) (next : Handler)
  | setTraceParentObservationId (id : String) (next : Handler)
  | dateNow (next : Int → Handler)

namespace Handler

def run : Handler → Proc AgentContext HandlerValue
  | .returns value => pure value
  | .throws error => throw error
  | .callAgent params next => do run (next (← Task.attempt (AgentContext.callAgent params)))
  | .dispatchGroup params next => do run (next (← Task.attempt (AgentContext.dispatchGroup params)))
  | .askUser prompt replyTimeoutMs next => do
      run (next (← Task.attempt (AgentContext.askUser prompt replyTimeoutMs)))
  | .emitChunk content eventType next => do
      run (next (← Task.attempt (AgentContext.emitChunk content eventType)))
  | .emitState state next => do run (next (← Task.attempt (AgentContext.emitState state)))
  | .flushToHistory next => do run (next (← Task.attempt AgentContext.flushToHistory))
  | .checkCancelled next => do run (next (← Task.attempt AgentContext.checkCancelled))
  | .setFinalAnswerEmitted emitted next => do
      modify fun context => { context with isFinalAnswerEmitted := emitted }
      run next
  | .setStreamFinished finished next => do
      modify fun context => { context with isStreamFinished := finished }
      run next
  | .setTraceParentObservationId id next => do
      modify fun context => { context with traceParentObservationId := id }
      run next
  | .dateNow next => do run (next (← ByFramework.dateNow))

end Handler

end ByFramework
