import ByFramework.Redis.StoreCore

/-!
The messages of the framework: headers, commands, results and what handlers may return.
Commands carry the check their constructors make, so an empty one cannot be built.
-/

namespace ByFramework

inductive JsonValue where
  | null
  | bool (value : Bool)
  | number (value : Int)
  | string (value : String)
  | array (items : List JsonValue)
  | object (fields : List (String × JsonValue))
deriving Repr, Inhabited

mutual

def JsonValue.decEq : (left right : JsonValue) → Decidable (left = right)
  | .null, .null => isTrue rfl
  | .bool left, .bool right => decidable_of_iff (left = right) (by simp)
  | .number left, .number right => decidable_of_iff (left = right) (by simp)
  | .string left, .string right => decidable_of_iff (left = right) (by simp)
  | .array left, .array right =>
      match JsonValue.decEqItems left right with
      | isTrue same => isTrue (congrArg _ same)
      | isFalse differ => isFalse fun same => differ (JsonValue.array.inj same)
  | .object left, .object right =>
      match JsonValue.decEqFields left right with
      | isTrue same => isTrue (congrArg _ same)
      | isFalse differ => isFalse fun same => differ (JsonValue.object.inj same)
  | .null, .bool _ | .null, .number _ | .null, .string _ | .null, .array _ | .null, .object _
  | .bool _, .null | .bool _, .number _ | .bool _, .string _ | .bool _, .array _
  | .bool _, .object _ | .number _, .null | .number _, .bool _ | .number _, .string _
  | .number _, .array _ | .number _, .object _ | .string _, .null | .string _, .bool _
  | .string _, .number _ | .string _, .array _ | .string _, .object _ | .array _, .null
  | .array _, .bool _ | .array _, .number _ | .array _, .string _ | .array _, .object _
  | .object _, .null | .object _, .bool _ | .object _, .number _ | .object _, .string _
  | .object _, .array _ => isFalse (by simp)

def JsonValue.decEqItems : (left right : List JsonValue) → Decidable (left = right)
  | [], [] => isTrue rfl
  | [], _ :: _ | _ :: _, [] => isFalse (by simp)
  | left :: lefts, right :: rights =>
      match JsonValue.decEq left right, JsonValue.decEqItems lefts rights with
      | isTrue head, isTrue tail => isTrue (congr (congrArg _ head) tail)
      | isFalse differ, _ => isFalse fun same => differ (List.cons.inj same).1
      | _, isFalse differ => isFalse fun same => differ (List.cons.inj same).2

def JsonValue.decEqFields : (left right : List (String × JsonValue)) → Decidable (left = right)
  | [], [] => isTrue rfl
  | [], _ :: _ | _ :: _, [] => isFalse (by simp)
  | (leftName, left) :: lefts, (rightName, right) :: rights =>
      match (inferInstance : Decidable (leftName = rightName)), JsonValue.decEq left right,
        JsonValue.decEqFields lefts rights with
      | isTrue name, isTrue head, isTrue tail =>
          isTrue (congr (congrArg _ (congr (congrArg _ name) head)) tail)
      | isFalse differ, _, _ =>
          isFalse fun same => differ (Prod.mk.inj (List.cons.inj same).1).1
      | _, isFalse differ, _ =>
          isFalse fun same => differ (Prod.mk.inj (List.cons.inj same).1).2
      | _, _, isFalse differ => isFalse fun same => differ (List.cons.inj same).2

end

instance : DecidableEq JsonValue := JsonValue.decEq

abbrev JsonObject := List (String × JsonValue)

/-- `{ ...base, ...extra }` -/
def spread (base extra : JsonObject) : JsonObject := Redis.upsertAll extra base

/-- A JavaScript exception: the `name` and `message` of the error thrown. -/
structure JsError where
  name : String := "Error"
  message : String
deriving DecidableEq, Repr

/-- `String(error)` -/
def JsError.toText (error : JsError) : String :=
  if error.name = "" then error.message
  else if error.message = "" then error.name
  else error.name ++ ": " ++ error.message

def taskCancelledError (message : String) : JsError := ⟨"TaskCancelledError", message⟩

def JsError.isTaskCancelled (error : JsError) : Bool := error.name = "TaskCancelledError"

/-- The code points that `String.prototype.trim` strips. -/
def isJsSpace (char : Char) : Bool :=
  char.toNat ∈ [9, 10, 11, 12, 13, 32, 160, 5760, 8232, 8233, 8239, 8287, 12288, 65279] ||
    (8192 ≤ char.toNat && char.toNat ≤ 8202)

def isBlank (text : String) : Bool := text.toList.all isJsSpace

def trim (text : String) : String :=
  String.ofList (((text.toList.dropWhile isJsSpace).reverse.dropWhile isJsSpace).reverse)

namespace AgentState

def cancelling := "CANCELLING"
def cancelled := "CANCELLED"
def completed := "COMPLETED"
def failed := "FAILED"
def resumed := "RESUMED"
def waitingAgent := "WAITING_AGENT"
def waitingUser := "WAITING_USER"
def queued := "QUEUED"

def values : List String :=
  ["STARTING", cancelling, cancelled, completed, failed, resumed, waitingAgent, waitingUser,
    queued, "CALLING_AGENT"]

end AgentState

/-- `RUNNING` is written by the runner but is no member of the `AgentState` enumeration. -/
def statusRunning := "RUNNING"

def terminalStates : List String :=
  [AgentState.completed, AgentState.failed, AgentState.cancelled]

def isTerminalState (state : String) : Bool := state ∈ terminalStates

/-! ### Headers and commands -/

structure MessageHeader where
  messageId : String
  sessionId : String
  traceId : String
  sourceAgentType : String := ""
  targetAgentType : String := ""
  parentMessageId : String := ""
  taskGroupId : String := ""
  userCode : String := ""
  userName : String := ""
  metadata : JsonObject := []
  traceParentSpanId : String := ""
  langfuseParentObservationId : String := ""
deriving DecidableEq, Repr

def hasContent : JsonValue → Bool
  | .null => false
  | .string text => !isBlank text
  | .array items => !items.isEmpty
  | _ => true

structure AskAgentCommand where
  header : MessageHeader
  content : JsonValue
  waitForReply : Bool := false
  extraPayload : JsonObject := []
  nonEmpty : hasContent content = true
deriving DecidableEq

structure ResumeCommand where
  header : MessageHeader
  content : JsonValue := .string ""
  status : String := ""
  replyData : JsonValue := .null
  extraPayload : JsonObject := []
  nonEmpty : status ≠ "" ∨ hasContent content = true
deriving DecidableEq

structure CancelTaskCommand where
  header : MessageHeader
  targetMessageId : String
  targetExecutionId : String := ""
  targetWorkerId : String := ""
  reason : String := ""
  requestedBy : String := ""
  force : Bool := false
  nonEmpty : targetMessageId ≠ ""
deriving DecidableEq

inductive GatewayCommand where
  | askAgent (command : AskAgentCommand)
  | resume (command : ResumeCommand)
  | cancelTask (command : CancelTaskCommand)
  | suspendWorker (header : MessageHeader) (reason : String)
  | resumeWorker (header : MessageHeader)
  | evictWorker (header : MessageHeader) (reason : String) (force : Bool)
deriving DecidableEq

def AskAgentCommand.make (header : MessageHeader) (content : JsonValue)
    (waitForReply : Bool) (extraPayload : JsonObject) : Except JsError AskAgentCommand :=
  if nonEmpty : hasContent content = true then
    .ok { header, content, waitForReply, extraPayload, nonEmpty }
  else .error ⟨"Error", "AskAgentCommand requires non-empty content"⟩

def ResumeCommand.make (header : MessageHeader) (content : JsonValue) (status : String)
    (replyData : JsonValue) (extraPayload : JsonObject) : Except JsError ResumeCommand :=
  if nonEmpty : status ≠ "" ∨ hasContent content = true then
    .ok { header, content, status, replyData, extraPayload, nonEmpty }
  else .error ⟨"Error", "ResumeCommand requires status or content"⟩

theorem ResumeCommand.make_header {header : MessageHeader} {content : JsonValue} {status : String}
    {replyData : JsonValue} {extraPayload : JsonObject} {command : ResumeCommand}
    (made : ResumeCommand.make header content status replyData extraPayload = .ok command) :
    command.header = header := by
  simp only [ResumeCommand.make] at made
  split at made
  · cases made
    rfl
  · cases made

theorem ResumeCommand.make_fields {header : MessageHeader} {content : JsonValue} {status : String}
    {replyData : JsonValue} {extraPayload : JsonObject} {command : ResumeCommand}
    (made : ResumeCommand.make header content status replyData extraPayload = .ok command) :
    command.content = content ∧ command.status = status ∧ command.replyData = replyData ∧
      command.extraPayload = extraPayload := by
  simp only [ResumeCommand.make] at made
  split at made
  · cases made
    exact ⟨rfl, rfl, rfl, rfl⟩
  · cases made

theorem AskAgentCommand.make_header {header : MessageHeader} {content : JsonValue}
    {waitForReply : Bool} {extraPayload : JsonObject} {command : AskAgentCommand}
    (made : AskAgentCommand.make header content waitForReply extraPayload = .ok command) :
    command.header = header := by
  simp only [AskAgentCommand.make] at made
  split at made
  · cases made
    rfl
  · cases made

theorem AskAgentCommand.make_fields {header : MessageHeader} {content : JsonValue}
    {waitForReply : Bool} {extraPayload : JsonObject} {command : AskAgentCommand}
    (made : AskAgentCommand.make header content waitForReply extraPayload = .ok command) :
    command.header = header ∧ command.waitForReply = waitForReply ∧ hasContent content = true := by
  simp only [AskAgentCommand.make] at made
  split at made
  · rename_i nonEmpty
    cases made
    exact ⟨rfl, rfl, nonEmpty⟩
  · cases made

namespace GatewayCommand

def header : GatewayCommand → MessageHeader
  | .askAgent command => command.header
  | .resume command => command.header
  | .cancelTask command => command.header
  | .suspendWorker header _ => header
  | .resumeWorker header => header
  | .evictWorker header _ _ => header

/-- `command instanceof ResumeCommand` -/
def isResume : GatewayCommand → Bool
  | .resume _ => true
  | _ => false

/-- `String(command.status || '')` -/
def status : GatewayCommand → String
  | .resume command => command.status
  | _ => ""

/-- Only the commands that carry an extra payload take the injected one. -/
def injectRuntimePayload (payload : JsonObject) : GatewayCommand → GatewayCommand
  | .askAgent command => .askAgent
      { command with extraPayload := spread command.extraPayload payload }
  | .resume command => .resume
      { command with extraPayload := spread command.extraPayload payload }
  | command => command

end GatewayCommand

/-! ### Results -/

structure AgentTaskResult where
  status : String := AgentState.completed
  content : JsonValue := .string ""
  replyData : JsonValue := .null
  metadata : JsonObject := []
  extraPayload : JsonObject := []
  finalAnswer : String := ""
deriving DecidableEq, Repr, Inhabited

/-- What `processCommand` may return; a value JSON cannot carry is known by its type name. -/
inductive HandlerValue where
  | taskResult (result : AgentTaskResult)
  | json (value : JsonValue)
  | unserializable (typeName : String)
deriving Repr

def typeName : JsonValue → String
  | .null => "null"
  | .bool _ => "boolean"
  | .number _ => "number"
  | .string _ => "string"
  | .array _ => "Array"
  | .object _ => "Object"

def isPlainRecord : JsonValue → Bool
  | .object _ => true
  | _ => false

def typeError (message : String) : JsError := ⟨"TypeError", message⟩

def ensureWireContent (value : JsonValue) : Except JsError JsonValue :=
  match value with
  | .string _ => .ok value
  | .array items =>
      if items.all isPlainRecord then .ok value
      else .error (typeError ("processCommand return content must be a string or array of " ++
        "records; got Array at content"))
  | _ => .error (typeError ("processCommand return content must be a string or array of " ++
      "records; got " ++ typeName value ++ " at content"))

def ensureJsonObject (value : JsonValue) (path : String) : Except JsError JsonObject :=
  match value with
  | .object fields => .ok fields
  | _ => .error (typeError ("processCommand return metadata fields must be JSON objects; got " ++
      typeName value ++ " at " ++ path))

def firstPresent (fields : JsonObject) : List String → Option JsonValue
  | [] => none
  | name :: rest =>
      match fields.lookup name with
      | none | some .null => firstPresent fields rest
      | some value => some value

def resultFields : List String :=
  ["status", "content", "replyData", "reply_data", "metadata", "extraPayload", "extra_payload",
    "finalAnswer", "final_answer"]

def isStructuredResult (fields : JsonObject) : Bool :=
  ["replyData", "reply_data", "content", "finalAnswer", "final_answer"].any
      (fun name => (fields.lookup name).isSome) ||
    (!fields.isEmpty && fields.all fun field => field.1 ∈ resultFields)

def statusField (fields : JsonObject) : String :=
  match fields.lookup "status" with
  | some (.string status) => status
  | _ => AgentState.completed

def normalizeRecord (fields : JsonObject) : Except JsError AgentTaskResult := do
  let metadata ← match fields.lookup "metadata" with
    | some value => ensureJsonObject value "metadata"
    | none => pure []
  if isStructuredResult fields then
    let content ← ensureWireContent
      ((firstPresent fields ["content", "finalAnswer", "final_answer"]).getD (.string ""))
    let extraPayload ← ensureJsonObject
      ((firstPresent fields ["extraPayload", "extra_payload"]).getD (.object [])) "extraPayload"
    pure
      { status := statusField fields
        content := content
        replyData := (firstPresent fields ["replyData", "reply_data"]).getD .null
        metadata := metadata
        extraPayload := extraPayload }
  else
    pure { status := statusField fields, replyData := .object fields, metadata := metadata }

def normalizeProcessResult : HandlerValue → Except JsError AgentTaskResult
  | .taskResult result => do
      let content ← ensureWireContent result.content
      pure { result with content := content, finalAnswer := "" }
  | .json (.string text) =>
      if text ∈ AgentState.values then .ok { status := text }
      else .ok { replyData := .string text }
  | .json (.object fields) => normalizeRecord fields
  | .json value => .ok { replyData := value }
  | .unserializable typeName => .error (typeError
      ("processCommand return value must be JSON serializable; got " ++ typeName ++
        " at replyData"))

end ByFramework
