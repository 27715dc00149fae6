import ByFramework.CancelCore
import ByFramework.ContextCore

/-! How a client sends a message: the route, the command, the record, and the publish. -/

namespace ByFramework

open Async

def actionAskAgent := "ASK_AGENT"
def actionResume := "RESUME"

structure SendMessageParams where
  targetAgentType : String
  sessionId : String
  content : JsonValue
  sourceAgentType : String := ""
  traceId : String := ""
  userCode : String := ""
  userName : String := ""
  actionType : String := ""
  extraPayload : JsonObject := []
  parentMessageId : String := ""
  messageId : String := ""
  metadata : JsonObject := []
  targetWorkerId : String := ""
  requireOnlineWorker : Bool := true
  routePolicy : Option RoutePolicy := none
  availabilityTimeoutMs : Option Int := none
  region : String := ""
  priority : Int := 0

/-- The parameters an interceptor may rewrite before a message is sent. -/
structure RequestParams where
  targetAgentType : String
  sessionId : String
  userCode : String
  userName : String
  content : JsonValue
  actionType : String
  parentMessageId : String
  extraPayload : JsonObject
  metadata : JsonObject

structure SendMessageResponse where
  success : Bool
  messageId : String
  traceId : String
  targetWorkerId : String
  targetAgentType : String := ""
  status : ExecutionStatus
  error : String := ""
  errorCode : String := ""
deriving DecidableEq, Repr

namespace SendMessageParams

def request (params : SendMessageParams) (interceptors : List (RequestParams → RequestParams)) :
    RequestParams :=
  interceptors.foldl (fun request interceptor => interceptor request)
    { targetAgentType := params.targetAgentType
      sessionId := params.sessionId
      userCode := params.userCode
      userName := params.userName
      content := params.content
      actionType := orElseText params.actionType actionAskAgent
      parentMessageId := params.parentMessageId
      extraPayload := params.extraPayload
      metadata := params.metadata }

end SendMessageParams

def contentPart (fields : JsonObject) (name : String) (missing : JsonValue) : JsonValue :=
  ((fields.lookup name).filter JsonValue.truthy).getD missing

def formatInner : JsonValue → JsonValue
  | .string text => .string text
  | .object fields => .object
      [("text", contentPart fields "text" (.string "")),
        ("files", contentPart fields "files" (.array [])),
        ("resources", contentPart fields "resources" (.array []))]
  | _ => .object [("text", .string ""), ("files", .array []), ("resources", .array [])]

def formatMessage : JsonValue → JsonValue
  | .object fields =>
      match fields.lookup "content" with
      | none => .object fields
      | some inner => .object ([("role", fields.lookup "role"), ("content", some (formatInner inner))]
          |>.filterMap fun field => field.2.map fun value => (field.1, value))
  | value => value

def formatContent : JsonValue → JsonValue
  | .string text => .string text
  | .array messages => .array (messages.map formatMessage)
  | message => .array [formatMessage message]

def spanKeys : List String :=
  ["trace_parent_span_id", "traceParentSpanId", "langfuse_parent_observation_id",
    "langfuseParentObservationId"]

def sentMetadata (metadata : JsonObject) : JsonObject :=
  metadata.filter fun field => field.1 ∉ spanKeys

def sentHeader (params : SendMessageParams) (request : RequestParams)
    (messageId traceId : String) : MessageHeader :=
  let traceParentSpanId := orElseText
    (textField request.metadata ["trace_parent_span_id", "traceParentSpanId"])
    (spanIdHex (messageId ++ ":client.dispatch"))
  { messageId := messageId
    sessionId := request.sessionId
    traceId := traceId
    sourceAgentType := params.sourceAgentType
    targetAgentType := request.targetAgentType
    parentMessageId := request.parentMessageId
    userCode := request.userCode
    userName := request.userName
    metadata := sentMetadata request.metadata
    traceParentSpanId := traceParentSpanId
    langfuseParentObservationId := orElseText (textField request.metadata
      ["langfuse_parent_observation_id", "langfuseParentObservationId"]) traceParentSpanId }

def mergedPayload (payload : JsonObject) : JsonObject :=
  spread payload [("attachments", contentPart payload "attachments" (.array []))]

def buildGatewayCommand (actionType : String) (header : MessageHeader) (content : JsonValue)
    (extraPayload : JsonObject) : Except JsError GatewayCommand :=
  if actionType = actionResume then
    (ResumeCommand.make header content (textField extraPayload ["status"])
      ((extraPayload.lookup "reply_data").getD .null)
      (extraPayload.filter fun field => field.1 ∉ ["status", "reply_data"])).map .resume
  else
    (AskAgentCommand.make header content
      (((extraPayload.lookup "wait_for_reply").map JsonValue.truthy).getD false)
      (dropWaitForReply extraPayload)).map .askAgent

/-- Another target for a command that asks; a resume keeps its own. -/
def retarget (targetAgentType : String) : GatewayCommand → GatewayCommand
  | .askAgent ask => .askAgent (retargetAskAgentCommand ask targetAgentType)
  | command => command

section

variable {σ : Type}

/-! ### Sending -/

/-- What the sending steps share once the command is built. -/
structure Dispatch where
  params : SendMessageParams
  request : RequestParams
  command : GatewayCommand
  routePolicy : RoutePolicy
  resumed : Option ExecutionRecord
  executionId : String

def Dispatch.source (dispatch : Dispatch) : String :=
  orElseText dispatch.params.sourceAgentType clientSourceAgentType

/-- The record of a message, as far as every outcome shares it. -/
def Dispatch.record (dispatch : Dispatch) (status : String) : ExecutionRecord :=
  { executionId := dispatch.executionId
    messageId := dispatch.command.header.messageId
    sessionId := dispatch.request.sessionId
    traceId := dispatch.command.header.traceId
    parentMessageId := dispatch.request.parentMessageId
    sourceAgentType := dispatch.source
    targetAgentType := dispatch.request.targetAgentType
    status := status
    routePolicy := dispatch.routePolicy.text }

def Dispatch.intent (dispatch : Dispatch) : DeliveryIntent :=
  { executionId := dispatch.executionId
    messageId := dispatch.command.header.messageId
    sessionId := dispatch.request.sessionId
    traceId := dispatch.command.header.traceId
    source := dispatch.source
    targetAgentType := dispatch.request.targetAgentType
    userCode := dispatch.request.userCode
    region := dispatch.params.region
    priority := dispatch.params.priority
    policy := dispatch.routePolicy
    timeoutMs := dispatch.params.availabilityTimeoutMs
    command := dispatch.command
    metadata := sentMetadata dispatch.request.metadata }

def Dispatch.rejected (dispatch : Dispatch) (availability : AvailabilityResult) :
    SendMessageResponse :=
  { success := false
    messageId := dispatch.command.header.messageId
    traceId := dispatch.command.header.traceId
    targetWorkerId := ""
    status := .failed
    error := orElseText availability.error "Agent type unavailable"
    errorCode := orElseText availability.errorCode "AGENT_TYPE_UNAVAILABLE" }

def Dispatch.reject (dispatch : Dispatch) (availability : AvailabilityResult) :
    Proc σ SendMessageResponse := do
  let response := dispatch.rejected availability
  Task.failSoft (initializeExecution { dispatch.record AgentState.failed with
    routeStatus := availability.status.text
    availabilityError := response.error
    availabilityErrorCode := response.errorCode })
  pure response

def Dispatch.publish (dispatch : Dispatch) (streamName : Key) (targetAgentType routeStatus : String)
    (queued : Bool) : Proc σ SendMessageResponse := do
  Task.when dispatch.resumed.isNone
    (Task.failSoft (initializeExecution { dispatch.record AgentState.queued with
      targetAgentType := targetAgentType
      streamName := some streamName
      routeStatus := routeStatus }))
  Task.when (!queued) do
    let _ ← redis (.xadd streamName (.command (retarget targetAgentType dispatch.command)))
  pure
    { success := true
      messageId := dispatch.command.header.messageId
      traceId := dispatch.command.header.traceId
      targetWorkerId := dispatch.params.targetWorkerId
      targetAgentType := targetAgentType
      status := .queued }

def selectedTarget (command : GatewayCommand) (availability : AvailabilityResult)
    (targetAgentType : String) : String :=
  match command with
  | .askAgent _ => orElseText availability.selectedAgentType targetAgentType
  | _ => targetAgentType

def Dispatch.route (dispatch : Dispatch) : Proc σ SendMessageResponse := do
  if dispatch.params.targetWorkerId ≠ "" then
    dispatch.publish (.workerCtrlStream dispatch.params.targetWorkerId)
      dispatch.request.targetAgentType "DIRECT_WORKER" false
  else
    let availability ← prepareDelivery dispatch.intent
    if availability.status = .reject then dispatch.reject availability
    else
      dispatch.publish
        (availability.streamName.getD (.ctrlStream dispatch.params.targetAgentType))
        (selectedTarget dispatch.command availability dispatch.request.targetAgentType)
        availability.status.text (availability.status = .queuePending)

def notOnline (params : SendMessageParams) : SendMessageResponse :=
  { success := false
    messageId := ""
    traceId := ""
    targetWorkerId := params.targetWorkerId
    status := .failed
    error := "Target worker '" ++ params.targetWorkerId ++ "' is not online or not registered"
    errorCode := "WORKER_NOT_ONLINE" }

/-- Why a direct route cannot be taken; a failed look-up is reported like a missing type. -/
def directRouteError (params : SendMessageParams) : Proc σ (Option SendMessageResponse) := do
  if params.targetWorkerId = "" ∨ !params.requireOnlineWorker then pure none
  else
    match ← Task.attempt (isWorkerOnline params.targetWorkerId) with
    | .ok true => pure none
    | .ok false => pure (some (notOnline params))
    | .error error => pure (some
        { success := false
          messageId := ""
          traceId := ""
          targetWorkerId := ""
          status := .failed
          error := error.message
          errorCode := "AGENT_TYPE_UNAVAILABLE" })

def resumedBy (request : RequestParams) (messageId : String) : Proc σ (Option ExecutionRecord) :=
  if request.actionType = actionResume then lookupResumedExecution messageId request.sessionId
  else pure none

def dispatchExecutionId (resumed : Option ExecutionRecord) : Proc σ String := do
  let known := (resumed.map ExecutionRecord.executionId).getD ""
  if known = "" then generateExecutionId else pure known

def defaultRoutePolicy (params : SendMessageParams) : RoutePolicy :=
  params.routePolicy.getD (if params.requireOnlineWorker then .failFast else .sendAnyway)

def sendMessage (interceptors : List (RequestParams → RequestParams))
    (params : SendMessageParams) : Proc σ SendMessageResponse := do
  let request := params.request interceptors
  let messageId ← (if params.messageId = "" then generateMessageId else pure params.messageId)
  let traceId ← (if params.traceId = "" then plainId else pure params.traceId)
  match ← directRouteError params with
  | some refusal => pure refusal
  | none =>
      let command ← orThrow (buildGatewayCommand request.actionType
        (sentHeader params request messageId traceId) (formatContent request.content)
        (mergedPayload request.extraPayload))
      let resumed ← resumedBy request messageId
      let executionId ← dispatchExecutionId resumed
      Dispatch.route ⟨params, request, command, defaultRoutePolicy params, resumed, executionId⟩

end

end ByFramework
