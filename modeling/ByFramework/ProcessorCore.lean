import ByFramework.WorkerCore

/-! The second entry point for messages: a processor inside a consume loop of the user's own. -/

namespace ByFramework

open Async

/-- A processor's context has no current command: no ask to inherit from, and no parent. -/
def noCurrentCommand : GatewayCommand :=
  .resumeWorker { messageId := "", sessionId := "", traceId := "" }

namespace GatewayProcessor

/-- The header of the caller this execution owes a reply to; `none` when nobody waits. -/
def resolveReplyHeader (command : GatewayCommand) (snapshot : Option ExecutionRecord) :
    Option MessageHeader :=
  match command with
  | .resume resume =>
      match snapshot with
      | none => none
      | some execution =>
          if execution.sourceAgentType = "" ∨
              execution.sourceAgentType = clientSourceAgentType then none
          else some { resume.header with
            sourceAgentType := execution.sourceAgentType
            parentMessageId := execution.parentMessageId
            taskGroupId := execution.taskGroupId
            metadata := execution.metadata }
  | command => if command.header.sourceAgentType = "" then none else some command.header

def newContext (command : GatewayCommand) (traceId : String) : AgentContext :=
  { sessionId := command.header.sessionId
    traceId := traceId
    currentAgentType := command.header.targetAgentType
    currentMessageId := command.header.messageId
    currentCommand := noCurrentCommand
    workerId := "" }

def callbackHeader (header : MessageHeader) (workerId messageId traceId : String)
    (metadata : JsonObject) : MessageHeader :=
  { messageId := messageId
    sessionId := header.sessionId
    traceId := traceId
    sourceAgentType := orElseText header.targetAgentType workerId
    targetAgentType := header.sourceAgentType
    parentMessageId := header.messageId
    taskGroupId := header.taskGroupId
    userCode := header.userCode
    userName := header.userName
    metadata := spread header.metadata metadata }

section

variable {σ : Type}

/-- The record of a resumed execution; a registry that fails has none. -/
def loadExecutionSnapshot (command : GatewayCommand) : Proc σ (Option ExecutionRecord) :=
  tryCatch (getExecutionByMessageId command.header.messageId command.header.sessionId)
    fun _ => pure none

def enqueueCallback (workerId : String) (header : MessageHeader) (status : String)
    (agentReturn : AgentReturn) : Proc σ PUnit := do
  let messageId ← (if header.parentMessageId = "" then generateMessageId
    else pure header.parentMessageId)
  let traceId ← (if header.traceId = "" then plainId else pure header.traceId)
  let callback ← orThrow (ResumeCommand.make
    (callbackHeader header workerId messageId traceId agentReturn.metadata) agentReturn.content
    status agentReturn.replyData agentReturn.extraPayload)
  let _ ← redis (.xadd (.ctrlStream callback.header.targetAgentType)
    (.command (.resume callback)))

end

section

variable (workerId : String) (command : GatewayCommand) (replyHeader : Option MessageHeader)

/-- Reply, unless the run is suspended and has not finished, and show the state reached. -/
def reply (taskResult : AgentTaskResult) : Proc AgentContext PUnit := do
  let context ← get
  match replyHeader with
  | none => AgentContext.emitState AgentState.completed
  | some header =>
      Task.when (!(context.isSuspended && !isTerminalState taskResult.status)) do
        enqueueCallback workerId header taskResult.status taskResult.toReturn
        AgentContext.emitState (AgentState.queued ++ ": " ++ header.sourceAgentType)

def endStream : Proc AgentContext PUnit := do
  let context ← get
  Task.when (replyHeader.isNone ∧ !context.isSuspended ∧ !context.isStreamFinished)
    (AgentContext.emitChunk "" EventType.appStreamResponse)

def runMessage (handler : GatewayCommand → AgentContext → Handler)
    (inboundCommand : GatewayCommand) : Proc AgentContext HandlerValue := do
  Task.when command.isResume (AgentContext.emitState AgentState.resumed)
  let result ← (handler inboundCommand (← get)).run
  ofProcess workerId
    (.reach (.handlerEnds command.header.sessionId command.header.messageId true))
  flushPendingGroupReplies (← AgentContext.takePendingGroupReplies)
  let taskResult ← orThrow (normalizeProcessResult result)
  reply workerId replyHeader taskResult
  match finalMessage taskResult with
  | none => pure ⟨⟩
  | some text => AgentContext.emitChunk text EventType.finalAnswer
  endStream replyHeader
  pure result

/-- A message that failed is reported to its caller, suspended or not. -/
def fail (error : JsError) : Proc AgentContext HandlerValue := do
  ofProcess workerId
    (.reach (.messageFails command.header.sessionId command.header.messageId))
  match replyHeader with
  | none => pure ⟨⟩
  | some header =>
      enqueueCallback workerId header AgentState.failed
        { replyData := .object [("error", .string error.toText)] }
  AgentContext.emitState (AgentState.failed ++ ": " ++ error.toText)
  throw error

end

/-- Pass a reply through the gate; other messages need not. -/
def passGate {σ : Type} (workerId : String) (command : GatewayCommand) : Proc σ Bool := do
  if command.isResume then
    let gate ← consumeWaitEntry command.header
    Task.when (!gate.allow) (emitOrphanedReply command workerId gate.reason)
    pure gate.allow
  else pure true

/-- Process one message; `none` for a reply to a wait that is already resolved. -/
def process {σ : Type} (workerId : String) (handler : GatewayCommand → AgentContext → Handler)
    (command : GatewayCommand) : Proc σ (Option HandlerValue) := do
  let traceId ← (if command.header.traceId = "" then plainId else pure command.header.traceId)
  let admitted ← passGate workerId command
  if !admitted then pure none
  else
    let snapshot ← (if command.isResume then loadExecutionSnapshot command else pure none)
    let replyHeader := resolveReplyHeader command snapshot
    let inboundCommand := restoreInboundMetadata command snapshot
    let result ← Task.focus (fun _ => newContext command traceId) (fun memory _ => memory)
      (tryCatch (runMessage workerId command replyHeader handler inboundCommand)
        (fail workerId command replyHeader))
    pure (some result)

end GatewayProcessor

end ByFramework
