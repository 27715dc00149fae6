import ByFramework.Async.Embedding
import ByFramework.WorkerCore

/-!
The sandbox of a process: one active workspace, which each message saves, sets and restores, and
against which the paths that handlers ask for are judged.
-/

namespace ByFramework

open Async

/-! ### Paths -/

def pathSegments (filePath : List Char) : List (List Char) := filePath.splitOn '/'

/-- `..`: leave the last segment; above the root there is nothing to leave. -/
def climb (allowAboveRoot : Bool) (segments : List (List Char)) : List (List Char) :=
  if segments = [] ∨ segments.getLast? = some "..".toList then
    if allowAboveRoot then segments ++ ["..".toList] else segments
  else segments.dropLast

def normalizeSegments (allowAboveRoot : Bool) (segments : List (List Char)) : List (List Char) :=
  segments.foldl (fun passed segment =>
    if segment = [] ∨ segment = ".".toList then passed
    else if segment = "..".toList then climb allowAboveRoot passed
    else passed ++ [segment]) []

def joinSegments (segments : List (List Char)) : List Char := ['/'].intercalate segments

/-- `path.normalize(path)` -/
def normalizePath (filePath : List Char) : List Char :=
  let absolute := filePath.head? = some '/'
  let trailing := if filePath.getLast? = some '/' then ['/'] else []
  let plain := joinSegments (normalizeSegments (!absolute) (pathSegments filePath))
  if plain = [] then if absolute then ['/'] else '.' :: trailing
  else if absolute then '/' :: plain ++ trailing
  else plain ++ trailing

/-- `path.join(...parts)` -/
def joinPath (parts : List String) : String :=
  String.ofList (normalizePath
    (joinSegments ((parts.map String.toList).filter fun part => !part.isEmpty)))

/-- `path.resolve(path)` in a process whose working directory is `cwd` -/
def resolvePath (cwd filePath : String) : List Char :=
  let full := if filePath.toList.head? = some '/' then filePath.toList
    else cwd.toList ++ '/' :: filePath.toList
  '/' :: joinSegments (normalizeSegments false (pathSegments full))

/-! ### The sandbox -/

def pathDenied (filePath : String) : JsError :=
  ⟨"Error", "[Sandbox] Access denied to path outside workspace: " ++ filePath⟩

/-- What `HookSandbox.assertPathAllowed` answers while a workspace is active. -/
def assertPathAllowed (cwd activeWorkspace filePath : String) : Except JsError Unit :=
  if activeWorkspace = "" then .ok ()
  else if (resolvePath cwd activeWorkspace).isPrefixOf (resolvePath cwd filePath) then .ok ()
  else .error (pathDenied filePath)

structure WorkspacePaths where
  privateDir : String

def privateWorkspace (baseDir sessionId taskId : String) : String :=
  joinPath [joinPath [baseDir, sessionId], "private", taskId]

/-- What the code of a task awaits, or asks of the sandbox. -/
inductive TaskOp where
  | worker (op : Op)
  | assertPathAllowed (filePath : String)

@[reducible] def TaskOp.Reply : TaskOp → Type
  | .worker op => op.Reply
  | .assertPathAllowed _ => Except JsError Unit

abbrev taskEffects : Signature := ⟨TaskOp, TaskOp.Reply⟩

inductive SandboxOp where
  | task (op : TaskOp)
  | setupWorkspace (sessionId taskId : String)
  | getActiveWorkspace
  | setActiveWorkspace (workspace : String)

@[reducible] def SandboxOp.Reply : SandboxOp → Type
  | .task op => op.Reply
  | .setupWorkspace _ _ => Except JsError WorkspacePaths
  | .getActiveWorkspace => String
  | .setActiveWorkspace _ => Unit

abbrev sandboxEffects : Signature := ⟨SandboxOp, SandboxOp.Reply⟩

def ofTask : Embedding taskEffects sandboxEffects := ⟨.task, fun _ reply => reply⟩

def ofWorker : Embedding effects sandboxEffects :=
  ⟨fun op => .task (.worker op), fun _ reply => reply⟩

abbrev SandboxHandler :=
  GatewayCommand → AgentContext → Task taskEffects JsError AgentContext HandlerValue

namespace Sandboxed

section

variable (worker : GatewayWorker) (handler : SandboxHandler) (command : GatewayCommand)
  (options : HandleMessageOptions)

def setupWorkspace : Task sandboxEffects JsError MessageRun PUnit :=
  Task.when worker.usesWorkspace do
    let outcome : Except JsError WorkspacePaths ← @Task.await sandboxEffects _ _
      (.setupWorkspace command.header.sessionId command.header.messageId)
    match outcome with
    | .error error => throw error
    | .ok workspacePaths =>
        modify fun run => { run with hasWorkspacePaths := true }
        Task.when (workspacePaths.privateDir ≠ "") do
          let _ ← @Task.await sandboxEffects _ _ (.setActiveWorkspace workspacePaths.privateDir)

def beforeHandler : Proc MessageRun (Option AgentTaskResult) := do
  worker.assertNotCancelled options
  match command with
  | .resume resume => GatewayWorker.rejoin resume
  | _ => pure none

def runHandler : Task sandboxEffects JsError MessageRun HandlerValue := do
  let run ← get
  let inbound := restoreInboundMetadata command options.existingData
  Task.focus MessageRun.context (fun run context => { run with context := context })
    (Task.embed ofTask (handler inbound run.context))

def processMessage : Task sandboxEffects JsError MessageRun AgentTaskResult := do
  Task.embed ofWorker (hook "onTaskStart")
  Task.embed ofWorker (GatewayWorker.saveUserMessage command)
  setupWorkspace worker command
  match ← Task.embed ofWorker (beforeHandler worker command options) with
  | some early => pure early
  | none =>
      let value ← runHandler handler command options
      Task.embed ofWorker (worker.afterHandler command options value)

/-- Handle one message, with the accesses to the active workspace of the process. -/
def handleMessage : Task sandboxEffects JsError (Option AgentContext) AgentTaskResult := do
  let traceId ← Task.embed ofWorker
    (if command.header.traceId = "" then plainId else pure command.header.traceId)
  let prevWorkspace : String ← @Task.await sandboxEffects _ _ .getActiveWorkspace
  Task.focus (fun _ => MessageRun.make worker command options traceId)
    (fun _ run => some run.context)
    (Task.withFinally
      (tryCatch (processMessage worker handler command options)
        fun error => Task.embed ofWorker (worker.recover command options error))
      (do
        let _ ← @Task.await sandboxEffects _ _ (.setActiveWorkspace prevWorkspace)
        Task.embed ofWorker (GatewayWorker.cleanupTask command)))

end

end Sandboxed

end ByFramework
