import ByFramework.Collections.InsertionMap
import ByFramework.Collections.Ledger
import ByFramework.ContextCore

/-!
The Langfuse plugin. Its task hooks open spans on the Langfuse client and end them later. The
client is a log of the calls made to it: none of its methods throws, and the id of the handle it
gives for a span is a parameter.
-/

namespace ByFramework

open Collections

structure SpanOpts where
  id : String
  traceId : String
  parentObservationId : Option String
  name : String
  input : JsonValue
  metadata : JsonObject
deriving DecidableEq

structure EndOpts where
  output : JsonValue
  level : String := "DEFAULT"
  statusMessage : Option String := none
deriving DecidableEq

structure TraceOpts where
  id : String
  name : String
  sessionId : String
  userId : Option String
  input : JsonValue
  metadata : JsonObject
  tags : List String
deriving DecidableEq

structure LangfuseEnvConfig where
  publicKey : String
  secretKey : String
  baseUrl : String
deriving DecidableEq

def langfuseEnvConfig (env : String → Option String) : Option LangfuseEnvConfig :=
  let publicKey := (env "LANGFUSE_PUBLIC_KEY").getD ""
  let secretKey := (env "LANGFUSE_SECRET_KEY").getD ""
  if publicKey = "" ∨ secretKey = "" then none
  else some
    { publicKey, secretKey
      baseUrl := orElseText ((env "LANGFUSE_HOST").getD "")
        (orElseText ((env "LANGFUSE_BASE_URL").getD "") "https://cloud.langfuse.com") }

/-- The spans of one execution, by the handles Langfuse gave for them. -/
structure ExecState where
  workerSpan : Nat
  taskSpan : Nat
  workflowKey : String
deriving DecidableEq

structure LangfusePlugin where
  client : Option LangfuseEnvConfig := none
  workflowSpans : InsertionMap String Nat := .empty
  execState : InsertionMap String ExecState := .empty
  traces : List TraceOpts := []
  spans : Ledger SpanOpts EndOpts := .empty

def GatewayCommand.content : GatewayCommand → JsonValue
  | .askAgent command => command.content
  | .resume command => command.content
  | _ => .null

namespace AgentContext

variable (context : AgentContext)

def langfuseExecutionId : String :=
  orElseText context.executionId context.currentCommand.header.messageId

def langfuseAgentType : String :=
  orElseText context.currentAgentType
    (orElseText context.currentCommand.header.targetAgentType "unknown")

def langfuseWorkflowKey : String :=
  context.sessionId ++ ":" ++ context.currentCommand.header.messageId

def langfuseUserId : Option String :=
  let user := orElseText context.currentCommand.header.userCode
    context.currentCommand.header.userName
  if user = "" then none else some user

def langfuseParent : Option String :=
  let parent := context.currentCommand.header.langfuseParentObservationId
  if parent = "" then none else some parent

def langfuseTrace : TraceOpts where
  id := context.traceId
  name := "agent.workflow:" ++ context.langfuseAgentType
  sessionId := context.sessionId
  userId := context.langfuseUserId
  input := context.currentCommand.content
  metadata :=
    [("agentType", .string context.langfuseAgentType), ("sessionId", .string context.sessionId),
      ("messageId", .string context.currentCommand.header.messageId)]
  tags := ["by-framework"]

def workflowSpanOpts : SpanOpts where
  id := spanIdHex (context.langfuseExecutionId ++ ":workflow")
  traceId := context.traceId
  parentObservationId := context.langfuseParent
  name := "agent.workflow:" ++ context.langfuseAgentType
  input := context.currentCommand.content
  metadata :=
    [("messageId", .string context.currentCommand.header.messageId),
      ("agentType", .string context.langfuseAgentType), ("sessionId", .string context.sessionId)]

def workerSpanOpts (workflowSpanId : String) : SpanOpts where
  id := spanIdHex (context.langfuseExecutionId ++ ":worker.execute")
  traceId := context.traceId
  parentObservationId := some workflowSpanId
  name := "worker.execute"
  input := context.currentCommand.content
  metadata :=
    [("executionId", .string context.langfuseExecutionId),
      ("messageId", .string context.currentCommand.header.messageId)]

def taskSpanOpts (workerSpanId : String) : SpanOpts where
  id := spanIdHex (context.langfuseExecutionId ++ ":agent.task")
  traceId := context.traceId
  parentObservationId := some workerSpanId
  name := context.langfuseAgentType
  input := context.currentCommand.content
  metadata :=
    [("executionId", .string context.langfuseExecutionId),
      ("agentType", .string context.langfuseAgentType), ("sessionId", .string context.sessionId)]

end AgentContext

namespace LangfusePlugin

variable (handleId : Nat → SpanOpts → String) (plugin : LangfusePlugin)

/-! ### The hooks -/

def onWorkerStartup (env : String → Option String) (packageInstalled : Bool) : LangfusePlugin :=
  match langfuseEnvConfig env with
  | none => plugin
  | some config => if packageInstalled then { plugin with client := some config } else plugin

def onWorkerShutdown : LangfusePlugin := { plugin with client := none }

def spanId (handle : Nat) : String := ((plugin.spans.opening handle).map (handleId handle)).getD ""

def openSpan (opts : SpanOpts) : LangfusePlugin := { plugin with spans := plugin.spans.enter opts }

def endSpan (handle : Nat) (opts : EndOpts) : LangfusePlugin :=
  { plugin with spans := plugin.spans.close handle opts }

def workflowSpan (context : AgentContext) : Nat × LangfusePlugin :=
  match plugin.workflowSpans.get? context.langfuseWorkflowKey with
  | some handle => (handle, plugin)
  | none =>
      (plugin.spans.size,
        { plugin.openSpan context.workflowSpanOpts with
          traces := plugin.traces ++ [context.langfuseTrace]
          workflowSpans :=
            plugin.workflowSpans.set context.langfuseWorkflowKey plugin.spans.size })

def openExecution (workflowHandle : Nat) (context : AgentContext) : LangfusePlugin :=
  let workerSpan := plugin.spans.size
  let working := plugin.openSpan (context.workerSpanOpts (plugin.spanId handleId workflowHandle))
  let taskSpan := working.spans.size
  let tasked := working.openSpan (context.taskSpanOpts (working.spanId handleId workerSpan))
  { tasked with
    execState := tasked.execState.set context.langfuseExecutionId
      { workerSpan, taskSpan, workflowKey := context.langfuseWorkflowKey } }

/-- The context goes on with the task's span as the parent of what it dispatches. -/
def onTaskStart (context : AgentContext) : LangfusePlugin × AgentContext :=
  match plugin.client with
  | none => (plugin, context)
  | some _ =>
      let started := (plugin.workflowSpan context).2.openExecution handleId
        (plugin.workflowSpan context).1 context
      (started,
        { context with
          traceParentObservationId := started.spanId handleId (started.spans.size - 1) })

/-- `this._workflowSpans.get(key)?.end(opts)`, and forget it -/
def endWorkflow (workflowKey : String) (opts : EndOpts) : LangfusePlugin :=
  match plugin.workflowSpans.get? workflowKey with
  | none => plugin
  | some handle =>
      { plugin.endSpan handle opts with
        workflowSpans := plugin.workflowSpans.delete workflowKey }

def endTask (context : AgentContext) (opts : EndOpts) (workflowEnds : Bool) : LangfusePlugin :=
  match plugin.execState.get? context.langfuseExecutionId with
  | none => plugin
  | some state =>
      let forgotten :=
        { plugin with execState := plugin.execState.delete context.langfuseExecutionId }
      let ended := (forgotten.endSpan state.taskSpan opts).endSpan state.workerSpan opts
      if workflowEnds then ended.endWorkflow state.workflowKey opts else ended

def onTaskComplete (context : AgentContext) (result : JsonValue) : LangfusePlugin :=
  plugin.endTask context { output := result } (!context.isSuspended)

def onTaskError (context : AgentContext) (message errorType : String) : LangfusePlugin :=
  plugin.endTask context
    { output := .object [("error", .string message), ("errorType", .string errorType)]
      level := "ERROR"
      statusMessage := some message } true

def onTaskCancel (context : AgentContext) : LangfusePlugin :=
  plugin.endTask context
    { output := .object [("status", .string "CANCELLED")]
      level := "WARNING"
      statusMessage := some "task cancelled" } true

inductive Hook where
  | workerStartup (env : String → Option String) (packageInstalled : Bool)
  | workerShutdown
  | taskStart (context : AgentContext)
  | taskComplete (context : AgentContext) (result : JsonValue)
  | taskError (context : AgentContext) (message errorType : String)
  | taskCancel (context : AgentContext)

def call : Hook → LangfusePlugin
  | .workerStartup env packageInstalled => plugin.onWorkerStartup env packageInstalled
  | .workerShutdown => plugin.onWorkerShutdown
  | .taskStart context => (plugin.onTaskStart handleId context).1
  | .taskComplete context result => plugin.onTaskComplete context result
  | .taskError context message errorType => plugin.onTaskError context message errorType
  | .taskCancel context => plugin.onTaskCancel context

def run : LangfusePlugin → List Hook → LangfusePlugin
  | plugin, [] => plugin
  | plugin, hook :: later => run (plugin.call handleId hook) later

end LangfusePlugin

end ByFramework
