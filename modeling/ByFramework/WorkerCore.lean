import ByFramework.ContextCore

/-! How a worker handles one message: the join, the handler, and the reply the caller is owed. -/

namespace ByFramework

open Async

structure GatewayWorker where
  workerId : String
  usesWorkspace : Bool
  processCommand : GatewayCommand → AgentContext → Handler

/-- What the runner hands over with a message; `existingData` is the record it continues. -/
structure HandleMessageOptions where
  cancelSignal : Option Nat := none
  cancelReason : String := ""
  existingData : Option ExecutionRecord := none
  executionId : String := ""

mutual

/-- `JSON.stringify(value)` -/
def JsonValue.stringify : JsonValue → String
  | .null => "null"
  | .bool value => if value then "true" else "false"
  | .number value => toString value
  | .string value => jsonQuote value
  | .array items => "[" ++ JsonValue.stringifyItems items ++ "]"
  | .object fields => "\x7b" ++ JsonValue.stringifyFields fields ++ "\x7d"

def JsonValue.stringifyItems : List JsonValue → String
  | [] => ""
  | [item] => item.stringify
  | item :: rest => item.stringify ++ "," ++ JsonValue.stringifyItems rest

def JsonValue.stringifyFields : List (String × JsonValue) → String
  | [] => ""
  | [(name, value)] => jsonQuote name ++ ":" ++ value.stringify
  | (name, value) :: rest =>
      jsonQuote name ++ ":" ++ value.stringify ++ "," ++ JsonValue.stringifyFields rest

end

def frameworkHopMetadataKeys : List String :=
  ["trace_parent_span_id", "framework_parent_span_id", "langfuse_parent_observation_id"]

/-- The dispatch metadata without its hop keys, under that of the waking message. -/
def mergeResumeMetadata (stored incoming : JsonObject) : JsonObject :=
  spread (stored.filter fun field => field.1 ∉ frameworkHopMetadataKeys) incoming

/-- The header of the original dispatch, as the execution record preserves it. -/
def originalHeader (header : MessageHeader) (snapshot : ExecutionRecord) : MessageHeader :=
  { header with
    sourceAgentType := snapshot.sourceAgentType
    parentMessageId := snapshot.parentMessageId
    taskGroupId := snapshot.taskGroupId
    metadata := snapshot.metadata }

/-- The command whose sender is owed a reply; `none` when nobody waits for one. -/
def resolveReplyCommand (command : GatewayCommand) (existingData : Option ExecutionRecord) :
    Option GatewayCommand :=
  match command with
  | .resume resume =>
      match existingData with
      | none => none
      | some snapshot =>
          if snapshot.sourceAgentType = "" ∨ snapshot.sourceAgentType = clientSourceAgentType then
            none
          else some (.resume { resume with header := originalHeader resume.header snapshot })
  | command => if command.header.sourceAgentType = "" then none else some command

/-- A resumed handler reads its dispatch metadata under that of the message that woke it. -/
def restoreInboundMetadata (command : GatewayCommand) (existingData : Option ExecutionRecord) :
    GatewayCommand :=
  match command with
  | .resume resume => .resume { resume with header := { resume.header with
      metadata := mergeResumeMetadata ((existingData.map ExecutionRecord.metadata).getD [])
        resume.header.metadata } }
  | command => command

/-! ### The reply -/

structure AgentReturn where
  replyData : JsonValue
  content : JsonValue := .string ""
  metadata : JsonObject := []
  extraPayload : JsonObject := []

def AgentTaskResult.toReturn (result : AgentTaskResult) : AgentReturn where
  replyData := result.replyData
  content := result.content
  metadata := result.metadata
  extraPayload := result.extraPayload

def callbackHeader (header : MessageHeader) (workerId messageId : String)
    (metadata : JsonObject) : MessageHeader :=
  { messageId := messageId
    sessionId := header.sessionId
    traceId := header.traceId
    sourceAgentType := orElseText header.targetAgentType workerId
    targetAgentType := header.sourceAgentType
    parentMessageId := header.messageId
    taskGroupId := header.taskGroupId
    userCode := header.userCode
    userName := header.userName
    metadata := spread header.metadata metadata }

section

variable {σ : Type}

/-- Store the result of a call outside any group, as a group of one. -/
def persistSingleCallResult (header : MessageHeader) (callback : ResumeCommand) : Proc σ PUnit :=
  if header.taskGroupId ≠ "" ∨ header.messageId = "" then pure ⟨⟩
  else Task.failSoft do
    let resultsKey := Key.taskGroupResults (singleCallTaskGroupId header.messageId)
    let _ ← redis (.hset resultsKey [(header.messageId, .result (resultData callback))])
    let _ ← redis (.expire resultsKey taskGroupTtlSeconds)

/-- Append with `retries` more attempts after one that fails. -/
def xaddWithRetry (stream : Key) (callback : ResumeCommand) : Nat → Proc σ PUnit
  | 0 => do
      let _ ← redis (.xadd stream (.command (.resume callback)))
  | retries + 1 =>
      tryCatch (do
        let _ ← redis (.xadd stream (.command (.resume callback))))
        fun _ => xaddWithRetry stream callback retries

def enqueueAgentReturn (workerId : String) (header : MessageHeader) (status : String)
    (agentReturn : AgentReturn) : Proc σ PUnit := do
  if header.sourceAgentType = "" then pure ⟨⟩
  else
    let messageId ← (if header.parentMessageId = "" then generateMessageId
      else pure header.parentMessageId)
    let callback ← orThrow (ResumeCommand.make
      (callbackHeader header workerId messageId agentReturn.metadata) agentReturn.content status
      agentReturn.replyData agentReturn.extraPayload)
    persistSingleCallResult header callback
    xaddWithRetry (.ctrlStream callback.header.targetAgentType) callback (maxRetryCount - 1)

end

/-! ### One message -/

/-- The locals of `handleMessage` that its `catch` and `finally` read. -/
structure MessageRun where
  context : AgentContext
  permissionTransferred : Bool := false
  hasWorkspacePaths : Bool := false

namespace MessageRun

def onContext {α : Type} (task : Proc AgentContext α) : Proc MessageRun α :=
  Task.focus MessageRun.context (fun run context => { run with context := context }) task

def make (worker : GatewayWorker) (command : GatewayCommand) (options : HandleMessageOptions)
    (traceId : String) : MessageRun :=
  let inbound := restoreInboundMetadata command options.existingData
  { context :=
      { sessionId := inbound.header.sessionId
        traceId := traceId
        currentAgentType := inbound.header.targetAgentType
        currentMessageId := inbound.header.messageId
        currentCommand := inbound
        workerId := worker.workerId
        cancelSignal := options.cancelSignal
        cancelReason := options.cancelReason
        executionId := options.executionId } }

end MessageRun

/-- Store a suspended, unfinished run under what it waits for. -/
def applySuspendedStatus (result : AgentTaskResult) (context : AgentContext) : AgentTaskResult :=
  if context.suspendedState = "" ∨ isTerminalState result.status then result
  else { result with status := context.suspendedState }

def finalMessage (result : AgentTaskResult) : Option String :=
  match result.content, result.replyData with
  | .string content, replyData =>
      if content ≠ "" then some content
      else replyText replyData
  | _, replyData => replyText replyData
where
  replyText : JsonValue → Option String
    | .null => none
    | .string text => some (if text ≠ "" then text else JsonValue.stringify (.string text))
    | value => some value.stringify

namespace GatewayWorker

section

variable (worker : GatewayWorker) (command : GatewayCommand) (options : HandleMessageOptions)

def replyCommand : Option GatewayCommand := resolveReplyCommand command options.existingData

def saveUserMessage : Proc MessageRun PUnit :=
  match command with
  | .askAgent ask => saveMessage ask.header.sessionId "user" ask.content
      [("message_id", .string ask.header.messageId), ("trace_id", .string ask.header.traceId)]
  | _ => pure ⟨⟩

def setupWorkspace : Proc MessageRun PUnit :=
  Task.when worker.usesWorkspace do
    orThrow (← await (.setupWorkspace command.header.sessionId command.header.messageId))
    modify fun run => { run with hasWorkspacePaths := true }

def assertNotCancelled : Proc MessageRun PUnit := do
  match ← AgentContext.abortReason worker.workerId options.cancelSignal with
  | none => pure ⟨⟩
  | some _ => throw (taskCancelledError
      (orElseText options.cancelReason "task cancelled before processing"))

def persistAgentReturnState (resume : ResumeCommand) : Proc MessageRun PUnit := do
  let run ← get
  Task.when run.hasWorkspacePaths do
    orThrow (← await (.persistAgentReturnState (.resume resume)))

/-- What a resume does before its handler; a result ends the message there. -/
def rejoin (resume : ResumeCommand) : Proc MessageRun (Option AgentTaskResult) := do
  persistAgentReturnState resume
  let early ← (if resume.header.taskGroupId = "" then pure none else joinGroup resume)
  match early with
  | some result => pure (some result)
  | none =>
      MessageRun.onContext (AgentContext.emitState AgentState.resumed)
      pure none

def prepare : Proc MessageRun (Option AgentTaskResult) := do
  hook "onTaskStart"
  saveUserMessage command
  setupWorkspace worker command
  assertNotCancelled worker options
  match command with
  | .resume resume => rejoin resume
  | _ => pure none

def runHandler : Proc MessageRun HandlerValue := do
  let run ← get
  let inbound := restoreInboundMetadata command options.existingData
  let header := command.header
  ofProcess worker.workerId (.reach (.handlerStarts header.sessionId header.messageId))
  let outcome ← Task.attempt
    (MessageRun.onContext (worker.processCommand inbound run.context).run)
  ofProcess worker.workerId
    (.reach (.handlerEnds header.sessionId header.messageId outcome.isOk))
  orThrow outcome

/-- Send the caller its result; a reply that cannot be sent fails the message. -/
def returnToCaller (reply : GatewayCommand) (result : AgentTaskResult) : Proc MessageRun PUnit := do
  modify fun run => { run with permissionTransferred := true }
  hook "onAgentReturnStart"
  tryCatch (do
      enqueueAgentReturn worker.workerId reply.header result.status result.toReturn
      hook "onAgentReturnComplete")
    fun error => do
      hook "onAgentReturnError"
      throw error

def emitFinalAnswer (message : Option String) : Proc MessageRun PUnit := do
  let run ← get
  match message with
  | none => pure ⟨⟩
  | some text =>
      Task.when (!run.context.isFinalAnswerEmitted)
        (MessageRun.onContext (AgentContext.emitChunk text EventType.finalAnswer))

/-- End the stream where this run is the one to end it, or else keep what was said. -/
def endStream (status : String) : Proc MessageRun PUnit := do
  let run ← get
  if (replyCommand command options).isNone ∧ isTerminalState status ∧
      !run.permissionTransferred ∧ !run.context.isSuspended then
    Task.when (!run.context.isStreamFinished)
      (MessageRun.onContext (AgentContext.emitChunk "" EventType.appStreamResponse))
  else MessageRun.onContext AgentContext.flushToHistory

/-- Reply, unless the run is suspended and has not finished. -/
def reportResult (normalized : AgentTaskResult) : Proc MessageRun AgentTaskResult := do
  let run ← get
  let isSuspended := run.context.isSuspended && !isTerminalState normalized.status
  let result := applySuspendedStatus normalized run.context
  match replyCommand command options with
  | none => pure result
  | some reply =>
      Task.when (!isSuspended) (returnToCaller worker reply result)
      pure result

def afterHandler (value : HandlerValue) : Proc MessageRun AgentTaskResult := do
  flushPendingGroupReplies (← MessageRun.onContext AgentContext.takePendingGroupReplies)
  let normalized ← orThrow (normalizeProcessResult value)
  let result ← reportResult worker command options normalized
  hook "onTaskComplete"
  emitFinalAnswer (finalMessage result)
  endStream command options result.status
  pure { result with finalAnswer := (finalMessage result).getD "" }

def processMessage : Proc MessageRun AgentTaskResult := do
  match ← prepare worker command options with
  | some early => pure early
  | none => afterHandler worker command options (← runHandler worker command options)

/-- A cancelled caller that was itself asked to cancel is not called back. -/
def callerListens (reply : GatewayCommand) : Proc MessageRun Bool := do
  if reply.header.parentMessageId = "" then pure true
  else
    let parent ← getExecutionByMessageId reply.header.parentMessageId command.header.sessionId
    pure (!(Option.map ExecutionRecord.cancelRequested parent).getD false)

/-- Send the caller an outcome; one that cannot be sent is only logged. -/
def notifyCaller (reply : GatewayCommand) (status : String) (replyData : JsonValue) :
    Proc MessageRun PUnit := do
  hook "onAgentReturnStart"
  tryCatch (do
      enqueueAgentReturn worker.workerId reply.header status { replyData := replyData }
      hook "onAgentReturnComplete")
    fun _ => hook "onAgentReturnError"

def endFailedStream : Proc MessageRun PUnit := do
  let run ← get
  if (replyCommand command options).isNone ∧ !run.permissionTransferred then
    MessageRun.onContext (AgentContext.emitChunk "" EventType.appStreamResponse)
  else MessageRun.onContext AgentContext.flushToHistory

def reportCancelled (error : JsError) : Proc MessageRun PUnit := do
  match replyCommand command options with
  | none => pure ⟨⟩
  | some reply =>
      let listens ← callerListens command reply
      Task.when listens (notifyCaller worker reply AgentState.cancelled
        (.object [("reason", .string error.message)]))

def reportFailed (error : JsError) : Proc MessageRun PUnit := do
  match replyCommand command options with
  | none => pure ⟨⟩
  | some reply =>
      notifyCaller worker reply AgentState.failed (.object [("error", .string error.toText)])

def reportError (error : JsError) : Proc MessageRun AgentTaskResult := do
  if error.isTaskCancelled then
    reportCancelled worker command options error
    endFailedStream command options
    pure { status := AgentState.cancelled }
  else
    reportFailed worker command options error
    hook "onTaskError"
    endFailedStream command options
    pure { status := AgentState.failed }

def recover (error : JsError) : Proc MessageRun AgentTaskResult := do
  ofProcess worker.workerId
    (.reach (.messageFails command.header.sessionId command.header.messageId))
  reportError worker command options error

def cleanupTask : Proc MessageRun PUnit := do
  let run ← get
  Task.when run.hasWorkspacePaths do
    orThrow (← await (.cleanupTask command.header.sessionId command.header.messageId))

/-- Handle one message; the memory is the reference that shows the runner its context. -/
def handleMessage : Proc (Option AgentContext) AgentTaskResult := do
  let traceId ← (if command.header.traceId = "" then plainId else pure command.header.traceId)
  Task.focus (fun _ => MessageRun.make worker command options traceId)
    (fun _ run => some run.context)
    (Task.withFinally
      (tryCatch (processMessage worker command options) (recover worker command options))
      (cleanupTask command))

end

end GatewayWorker

end ByFramework
