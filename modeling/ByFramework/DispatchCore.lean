import ByFramework.AvailabilityCore
import ByFramework.WaitGateCore

/-! Building an `AskAgentCommand` with its execution record, and the publish pipeline. -/

namespace ByFramework

open Async

structure CallAgentPublishInput where
  sessionId : String
  traceId : String
  sourceAgentType : String
  defaultParentMessageId : String
  targetAgentType : String
  content : JsonValue
  extraPayload : JsonObject := []
  waitForReply : Bool := true
  userCode : String := ""
  userName : String := ""
  taskGroupId : String := ""
  metadata : JsonObject := []
  messageId : String := ""
  parentMessageId : String := ""
  routePolicy : RoutePolicy := .failFast
  availabilityTimeoutMs : Option Int := none
  region : String := ""
  priority : Int := 0
  replyTimeoutMs : Option Int := none
  langfuseParentObservationId : String := ""

inductive RuntimeHint where
  | suspend
  | transfer
  | none
deriving DecidableEq, Repr

structure CallAgentPublishResult where
  status : String
  messageId : String
  parentMessageId : String
  targetAgentType : String
  error : String := ""
  errorCode : String := ""
  runtimeHint : RuntimeHint := .none
  routeStatus : Option AvailabilityStatus := none
deriving DecidableEq, Repr

def agentTypeNotFound := "AGENT_TYPE_NOT_FOUND"

def retargetAskAgentCommand (command : AskAgentCommand) (targetAgentType : String) :
    AskAgentCommand :=
  { command with header := { command.header with targetAgentType := targetAgentType } }

def dropWaitForReply (payload : JsonObject) : JsonObject :=
  payload.filter fun field => field.1 ≠ "wait_for_reply"

/-- The record a dispatch leaves of its command; `fallback` replaces an empty source. -/
def buildExecutionRecord (header : MessageHeader) (streamName : Key) (executionId fallback : String) :
    ExecutionRecord :=
  { executionId := executionId
    messageId := header.messageId
    parentMessageId := header.parentMessageId
    sessionId := header.sessionId
    traceId := header.traceId
    sourceAgentType := orElseText header.sourceAgentType fallback
    taskGroupId := header.taskGroupId
    metadata := header.metadata
    streamName := some streamName
    targetAgentType := header.targetAgentType
    status := AgentState.queued }

/-- The header of the command a call publishes. -/
def askAgentHeader (input : CallAgentPublishInput) (messageId parentMessageId : String) :
    MessageHeader :=
  { messageId := messageId
    sessionId := input.sessionId
    traceId := input.traceId
    sourceAgentType := if input.waitForReply then input.sourceAgentType else ""
    targetAgentType := input.targetAgentType
    parentMessageId := parentMessageId
    taskGroupId := input.taskGroupId
    userCode := input.userCode
    userName := input.userName
    metadata := input.metadata
    langfuseParentObservationId := input.langfuseParentObservationId }

def workerMaxInlineWaitMs : Int := 15 * 1000 / 3

def clampInlineWait (requested : Option Int) : Option Int :=
  requested.map fun timeout => min timeout workerMaxInlineWaitMs

section

variable {σ : Type}

def generateMessageId : Proc σ String := shortId "msg-"

def generateExecutionId : Proc σ String := shortId "exec-"

def publishAskAgentCommand (command : AskAgentCommand) (streamName : Key) (fallback : String) :
    Proc σ PUnit := do
  let executionId ← generateExecutionId
  Task.failSoft (initializeExecution
    (buildExecutionRecord command.header streamName executionId fallback))
  let _ ← redis (.xadd streamName (.command (.askAgent command)))

def callIntent (input : CallAgentPublishInput) (command : AskAgentCommand)
    (executionId : String) : DeliveryIntent :=
  { executionId := executionId
    messageId := command.header.messageId
    sessionId := input.sessionId
    traceId := input.traceId
    source := input.sourceAgentType
    targetAgentType := input.targetAgentType
    userCode := input.userCode
    region := input.region
    priority := input.priority
    policy := input.routePolicy
    timeoutMs := clampInlineWait input.availabilityTimeoutMs
    command := .askAgent command
    metadata := input.metadata }

def refuseCall (input : CallAgentPublishInput) (record : ExecutionRecord)
    (availability : AvailabilityResult) : Proc σ CallAgentPublishResult := do
  let errorCode := orElseText availability.errorCode agentTypeNotFound
  initializeExecution { record with
    status := AgentState.failed
    routePolicy := input.routePolicy.text
    routeStatus := availability.status.text
    availabilityError := availability.error
    availabilityErrorCode := errorCode }
  pure
    { status := AgentState.failed
      messageId := record.messageId
      parentMessageId := record.parentMessageId
      targetAgentType := input.targetAgentType
      error := availability.error
      errorCode := errorCode
      routeStatus := some availability.status }

def callWait (input : CallAgentPublishInput) (record : ExecutionRecord) : RegisterWaitParams :=
  { sessionId := input.sessionId
    parentMessageId := record.parentMessageId
    childMessageId := record.messageId
    taskGroupId := input.taskGroupId
    timeoutMs := input.replyTimeoutMs.getD defaultReplyTimeoutMs }

/-- Wait registration, then the record, then the control stream unless the router holds it. -/
def deliverCall (input : CallAgentPublishInput) (command : AskAgentCommand)
    (record : ExecutionRecord) (availability : AvailabilityResult) :
    Proc σ CallAgentPublishResult := do
  let target := orElseText availability.selectedAgentType input.targetAgentType
  let streamName := availability.streamName.getD (.ctrlStream input.targetAgentType)
  Task.when input.waitForReply (registerWait (callWait input record))
  initializeExecution { record with
    targetAgentType := target
    streamName := some streamName
    routePolicy := input.routePolicy.text
    routeStatus := availability.status.text
    selectedAgentType := availability.selectedAgentType }
  Task.when (availability.status ≠ .queuePending) do
    let _ ← redis (.xadd streamName
      (.command (.askAgent (retargetAskAgentCommand command target))))
  pure
    { status := AgentState.queued
      messageId := record.messageId
      parentMessageId := record.parentMessageId
      targetAgentType := target
      runtimeHint := if input.waitForReply then .suspend else .transfer
      routeStatus := some availability.status }

def publishCall (input : CallAgentPublishInput) (messageId : String) :
    Proc σ CallAgentPublishResult := do
  let parentMessageId := orElseText input.parentMessageId input.defaultParentMessageId
  let header := askAgentHeader input messageId parentMessageId
  let command ← orThrow (AskAgentCommand.make header input.content input.waitForReply
    (dropWaitForReply input.extraPayload))
  let executionId ← generateExecutionId
  let record := buildExecutionRecord header (.ctrlStream input.targetAgentType) executionId ""
  let availability ← prepareDelivery (callIntent input command executionId)
  if availability.status = .reject then refuseCall input record availability
  else deliverCall input command record availability

def publishCallAgent (input : CallAgentPublishInput) : Proc σ CallAgentPublishResult := do
  let messageId ← (if input.messageId = "" then generateMessageId else pure input.messageId)
  publishCall input messageId

end

end ByFramework
