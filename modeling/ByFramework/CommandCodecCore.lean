import ByFramework.AvailabilityCore

/-!
The wire form of the commands. A decoded command holds what was sent: where its types name a
string, any JSON value may stand, and the ids may be missing.
-/

namespace ByFramework

/-- `value || fallback` -/
def orDefault (value : Option JsonValue) (fallback : JsonValue) : JsonValue :=
  (value.filter JsonValue.truthy).getD fallback

/-- `value.name`, which is undefined unless the value is an object that has it. -/
def JsonValue.property (name : String) : JsonValue → Option JsonValue
  | .object fields => fields.lookup name
  | _ => none

/-- `JSON.parse(JSON.stringify(fields))`: what is undefined is left out. -/
def jsonFields (fields : List (String × Option JsonValue)) : JsonObject :=
  fields.filterMap fun field => field.2.map fun value => (field.1, value)

section Spread

variable (units : String → List String)

/-- `{ ...value }`, where a string has its code units for properties. -/
def JsonValue.spreadFields : JsonValue → JsonObject
  | .object fields => fields
  | .array items => items.mapIdx fun index item => (toString index, item)
  | .string text => (units text).mapIdx fun index unit => (toString index, .string unit)
  | _ => []

/-- `{ ...(value || {}) }` -/
def spreadOr (value : Option JsonValue) : JsonObject :=
  (orDefault value (.object [])).spreadFields units

end Spread

structure WireHeader where
  messageId : Option JsonValue
  sessionId : Option JsonValue
  traceId : Option JsonValue
  sourceAgentType : JsonValue
  targetAgentType : JsonValue
  parentMessageId : JsonValue
  taskGroupId : JsonValue
  userCode : JsonValue
  userName : JsonValue
  metadata : JsonObject
  traceParentSpanId : JsonValue
  langfuseParentObservationId : JsonValue
deriving DecidableEq

namespace WireHeader

def toDict (header : WireHeader) : List (String × Option JsonValue) :=
  [("message_id", header.messageId),
    ("session_id", header.sessionId),
    ("trace_id", header.traceId),
    ("source_agent_type", some header.sourceAgentType),
    ("target_agent_type", some header.targetAgentType),
    ("parent_message_id", some header.parentMessageId),
    ("task_group_id", some header.taskGroupId),
    ("user_code", some header.userCode),
    ("user_name", some header.userName),
    ("metadata", some (.object header.metadata)),
    ("trace_parent_span_id", some header.traceParentSpanId),
    ("langfuse_parent_observation_id", some header.langfuseParentObservationId)]

def ofDict (units : String → List String) (data : JsonValue) : WireHeader where
  messageId := data.property "message_id"
  sessionId := data.property "session_id"
  traceId := data.property "trace_id"
  sourceAgentType :=
    orDefault (data.property "source_agent_type")
      (orDefault (data.property "source_agent_id") (.string ""))
  targetAgentType := orDefault (data.property "target_agent_type") (.string "")
  parentMessageId := orDefault (data.property "parent_message_id") (.string "")
  taskGroupId := orDefault (data.property "task_group_id") (.string "")
  userCode := orDefault (data.property "user_code") (.string "")
  userName := orDefault (data.property "user_name") (.string "")
  metadata := spreadOr units (data.property "metadata")
  traceParentSpanId := orDefault (data.property "trace_parent_span_id") (.string "")
  langfuseParentObservationId :=
    orDefault (data.property "langfuse_parent_observation_id") (.string "")

def fromDict (units : String → List String) : Option JsonValue → Except JsError WireHeader
  | none =>
      .error ⟨"TypeError", "Cannot read properties of undefined (reading 'message_id')"⟩
  | some .null =>
      .error ⟨"TypeError", "Cannot read properties of null (reading 'message_id')"⟩
  | some data => .ok (ofDict units data)

end WireHeader

inductive WireCommand where
  | askAgent (header : WireHeader) (content : JsonValue) (waitForReply : Bool)
      (extraPayload : JsonObject)
  | resume (header : WireHeader) (content status replyData : JsonValue)
      (extraPayload : JsonObject)
  | cancelTask (header : WireHeader) (targetMessageId targetExecutionId targetWorkerId reason
      requestedBy cancelMode : JsonValue)
  | suspendWorker (header : WireHeader) (reason : JsonValue)
  | resumeWorker (header : WireHeader)
  | evictWorker (header : WireHeader) (reason : JsonValue) (force : Bool)
deriving DecidableEq

namespace WireCommand

def refusal : WireCommand → Option JsError
  | .askAgent _ content _ _ =>
      if !hasContent content then
        some ⟨"Error", "AskAgentCommand requires non-empty content"⟩
      else none
  | .resume _ content status _ _ =>
      if !status.truthy && !hasContent content then
        some ⟨"Error", "ResumeCommand requires status or content"⟩
      else none
  | .cancelTask _ targetMessageId _ _ _ _ cancelMode =>
      if !targetMessageId.truthy then
        some ⟨"Error", "CancelTaskCommand requires targetMessageId"⟩
      else if cancelMode ∉ [.string "graceful", .string "force"] then
        some ⟨"Error", "CancelTaskCommand cancelMode must be graceful or force"⟩
      else none
  | .suspendWorker .. | .resumeWorker .. | .evictWorker .. => none

def construct (command : WireCommand) : Except JsError WireCommand :=
  match command.refusal with
  | some error => .error error
  | none => .ok command

def header : WireCommand → WireHeader
  | .askAgent header .. | .resume header .. | .cancelTask header .. | .suspendWorker header ..
  | .resumeWorker header | .evictWorker header .. => header

def actionType : WireCommand → String
  | .askAgent .. => "ASK_AGENT"
  | .resume .. => "RESUME"
  | .cancelTask .. => "CANCEL_TASK"
  | .suspendWorker .. => "SUSPEND_WORKER"
  | .resumeWorker .. => "RESUME_WORKER"
  | .evictWorker .. => "EVICT_WORKER"

/-- `body.extra_payload`, left out when there is nothing in it. -/
def extraField (extraPayload : JsonObject) : JsonObject :=
  if extraPayload = [] then [] else [("extra_payload", .object extraPayload)]

def body : WireCommand → JsonObject
  | .askAgent _ content waitForReply extraPayload =>
      [("content", content), ("wait_for_reply", .bool waitForReply)] ++ extraField extraPayload
  | .resume _ content status replyData extraPayload =>
      [("content", content), ("status", status), ("reply_data", replyData)] ++
        extraField extraPayload
  | .cancelTask _ targetMessageId targetExecutionId targetWorkerId reason requestedBy cancelMode =>
      [("target_message_id", targetMessageId),
        ("target_execution_id", targetExecutionId),
        ("target_worker_id", targetWorkerId),
        ("reason", reason),
        ("requested_by", requestedBy),
        ("cancel_mode", cancelMode)]
  | .suspendWorker _ reason => [("reason", reason)]
  | .resumeWorker _ => []
  | .evictWorker _ reason force => [("reason", reason), ("force", .bool force)]

def toDict (command : WireCommand) : List (String × Option JsonValue) :=
  [("action_type", some (.string command.actionType)),
    ("header", some (.object (jsonFields command.header.toDict))),
    ("body", some (.object command.body))]

/-- `JSON.parse(JSON.stringify(command.toDict()))` -/
def wire (command : WireCommand) : JsonObject := jsonFields command.toDict

section Decode

variable (units : String → List String) (data : JsonObject)

def bodyFields : JsonObject := spreadOr units (data.lookup "body")

def bodyText (name : String) : JsonValue :=
  orDefault ((bodyFields units data).lookup name) (.string "")

def bodyFlag (name : String) : Bool :=
  (((bodyFields units data).lookup name).map JsonValue.truthy).getD false

def extraPayloadField : JsonObject :=
  spreadOr units ((bodyFields units data).lookup "extra_payload")

def headerFields : Except JsError WireHeader := WireHeader.fromDict units (data.lookup "header")

def askAgentFromDict : Except JsError WireCommand := do
  (WireCommand.askAgent (← headerFields units data)
    (((bodyFields units data).lookup "content").getD (.string ""))
    (bodyFlag units data "wait_for_reply") (extraPayloadField units data)).construct

def resumeFromDict : Except JsError WireCommand := do
  (WireCommand.resume (← headerFields units data)
    (((bodyFields units data).lookup "content").getD (.string ""))
    (bodyText units data "status")
    (((bodyFields units data).lookup "reply_data").getD .null)
    (extraPayloadField units data)).construct

def cancelTaskFromDict : Except JsError WireCommand := do
  (WireCommand.cancelTask (← headerFields units data)
    (bodyText units data "target_message_id")
    (bodyText units data "target_execution_id")
    (bodyText units data "target_worker_id")
    (bodyText units data "reason")
    (bodyText units data "requested_by")
    (orDefault ((bodyFields units data).lookup "cancel_mode") (.string "graceful"))).construct

def suspendWorkerFromDict : Except JsError WireCommand := do
  (WireCommand.suspendWorker (← headerFields units data) (bodyText units data "reason")).construct

def resumeWorkerFromDict : Except JsError WireCommand := do
  (WireCommand.resumeWorker (← headerFields units data)).construct

def evictWorkerFromDict : Except JsError WireCommand := do
  (WireCommand.evictWorker (← headerFields units data) (bodyText units data "reason")
    (bodyFlag units data "force")).construct

def commandRegistry : List (String × (JsonObject → Except JsError WireCommand)) :=
  [("ASK_AGENT", askAgentFromDict units),
    ("RESUME", resumeFromDict units),
    ("CANCEL_TASK", cancelTaskFromDict units),
    ("SUSPEND_WORKER", suspendWorkerFromDict units),
    ("RESUME_WORKER", resumeWorkerFromDict units),
    ("EVICT_WORKER", evictWorkerFromDict units)]

/-- `String(data.action_type)` -/
def kindOf : String := ((data.lookup "action_type").map JsonValue.toText).getD "undefined"

def commandFromDict : Except JsError WireCommand :=
  match (commandRegistry units).lookup (kindOf data) with
  | some fromDict => fromDict data
  | none => .error ⟨"Error", "Unsupported action_type: " ++ kindOf data⟩

end Decode

end WireCommand

end ByFramework
