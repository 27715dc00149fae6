import ByFramework.LifecycleCore
import ByFramework.WorkerCore

/-! The two consume loops of a runner: agent-type streams, and the worker's own control stream. -/

namespace ByFramework

open Async

structure StreamMessage where
  streamName : Key
  msgId : Nat
  command : GatewayCommand
deriving DecidableEq

/-- An entry that holds no command is passed over. -/
def parseStreamEntry (streamName : Key) : Nat × Value → Option StreamMessage
  | (msgId, .command command) => some ⟨streamName, msgId, command⟩
  | _ => none

def parseBatch (streamName : Key) (entries : List (Nat × Value)) : List StreamMessage :=
  entries.filterMap (parseStreamEntry streamName)

section

variable {σ : Type}

/-- The execution a cancellation names, by its id or by its message. -/
def cancelledExecution (workerId : String) (command : CancelTaskCommand) :
    Proc σ (Option String) := do
  if command.targetExecutionId = "" then
    let known ← ofProcess workerId (.executionOf command.targetMessageId)
    pure (truthyText known)
  else pure (some command.targetExecutionId)

def handleCancelTask (workerId : String) (command : CancelTaskCommand) : Proc σ PUnit := do
  match ← cancelledExecution workerId command with
  | none => pure ⟨⟩
  | some executionId =>
      let running ← ofProcess workerId (.controllerOf executionId)
      markExecutionCancelling executionId command.header.sessionId command.reason
      match running with
      | none => pure ⟨⟩
      | some controller =>
          ofProcess workerId (.abort controller (orElseText command.reason "task cancelled"))

/-- Only the control commands do anything here. -/
def obeyControlMessage (workerId : String) : GatewayCommand → Proc σ PUnit
  | .suspendWorker _ _ => ofProcess workerId (.setLifecycle "suspended")
  | .resumeWorker _ => ofProcess workerId (.setLifecycle "active")
  | .evictWorker _ _ _ => ofProcess workerId (.setLifecycle "evicted")
  | .cancelTask command => handleCancelTask workerId command
  | _ => pure ⟨⟩

def xack (streamName : Key) (groupName : String) (msgId : Nat) : Proc σ PUnit := do
  let _ ← redis (.xack streamName groupName msgId)

/-- Whatever the message, it is acknowledged. -/
def handleControlMessage (workerId groupName : String) (streamName : Key) (msgId : Nat)
    (command : GatewayCommand) : Proc σ PUnit :=
  Task.withFinally (obeyControlMessage workerId command) (xack streamName groupName msgId)

/-- One entry of the worker's control stream; one that fails is acknowledged all the same. -/
def runControlEntry (workerId groupName : String) (entry : Nat × Value) : Proc σ PUnit :=
  let streamName := Key.workerCtrlStream workerId
  match parseStreamEntry streamName entry with
  | none => xack streamName groupName entry.1
  | some message => tryCatch
      (do
        ofProcess workerId (.reach (.controlMessage streamName message.msgId))
        handleControlMessage workerId groupName streamName message.msgId message.command)
      fun _ => xack streamName groupName message.msgId

def runControlOnce (workerId groupName : String) : Proc σ PUnit := do
  let entries : List (Nat × Value) ←
    redis (.xreadgroup (.workerCtrlStream workerId) groupName workerId 10)
  Task.forEach entries (runControlEntry workerId groupName)

end

/-! ### One message of an agent type -/

namespace GatewayWorker

section

variable {σ : Type} (worker : GatewayWorker) (groupName : String) (streamName : Key) (msgId : Nat)

/-- Let one copy of a reply through; the others are reported and acknowledged. -/
def admitReply (resume : ResumeCommand) : Proc σ Bool := do
  let gate ← consumeWaitEntry resume.header
  if gate.allow then pure true
  else
    emitOrphanedReply (.resume resume) worker.workerId gate.reason
    xack streamName groupName msgId
    pure false

def claimRecord (command : GatewayCommand) (record : ExecutionRecord) : ExecutionRecord :=
  { record with
    workerId := worker.workerId
    streamName := some streamName
    redisMessageId := some msgId
    metadata := if command.isResume then record.metadata else command.header.metadata }

def newRecord (command : GatewayCommand) (executionId : String) (now : Int) : ExecutionRecord :=
  { executionId := executionId
    messageId := command.header.messageId
    parentMessageId := command.header.parentMessageId
    sessionId := command.header.sessionId
    workerId := worker.workerId
    targetAgentType := command.header.targetAgentType
    metadata := command.header.metadata
    streamName := some streamName
    redisMessageId := some msgId
    status := statusRunning
    createdAt := now
    startedAt := now
    updatedAt := now }

def recordRunning (command : GatewayCommand) (executionId : String)
    (existing : Option ExecutionRecord) : Proc σ PUnit := do
  match existing with
  | some _ =>
      updateExecutionStatus executionId command.header.sessionId statusRunning
        (claimRecord worker streamName msgId command)
  | none =>
      let now ← dateNow
      saveExecution (newRecord worker streamName msgId command executionId now)

def executionIdOf (command : GatewayCommand) (existing : Option ExecutionRecord) :
    Proc σ String := do
  let known := orElseText ((existing.map ExecutionRecord.executionId).getD "")
    command.header.traceId
  if known = "" then generateExecutionId else pure known

/-- Cancelled before any worker claimed it. -/
def cancelledUnclaimed (existing : Option ExecutionRecord) : Bool :=
  existing.any fun record => record.cancelRequested &&
    (record.status = "" || record.status = AgentState.queued)

/-- The terminal executions that a message replays, unless it is the reply to one. -/
def replaysTerminal (command : GatewayCommand) (existing : Option ExecutionRecord) : Bool :=
  !command.isResume && existing.any fun record => isTerminalState record.status

/-- Run the message under the given execution, and acknowledge it once that is done. -/
def execute (command : GatewayCommand) (executionId : String)
    (existing : Option ExecutionRecord) (controller : Nat) : Proc σ PUnit := do
  ofProcess worker.workerId
    (.trackExecution executionId command.header.messageId controller)
  recordRunning worker streamName msgId command executionId existing
  let _ ← dateNow
  ofProcess worker.workerId (.reach (.messageStarts streamName msgId))
  let result ← Task.focus (fun _ => none) (fun memory _ => memory) (worker.handleMessage command
    { cancelSignal := some controller
      cancelReason := (existing.map ExecutionRecord.cancelReason).getD ""
      existingData := existing
      executionId := executionId })
  ofProcess worker.workerId (.reach (.messageHandled streamName msgId))
  let _ ← dateNow
  markExecutionFinished executionId command.header.sessionId result.status
  xack streamName groupName msgId

def claimMessage (command : GatewayCommand) (existing : Option ExecutionRecord) :
    Proc σ PUnit := do
  let executionId ← executionIdOf command existing
  let controller ← ofProcess worker.workerId .newAbortController
  Task.when (existing.any ExecutionRecord.cancelRequested)
    (ofProcess worker.workerId (.abort controller
      (orElseText ((existing.map ExecutionRecord.cancelReason).getD "") "task cancelled")))
  if cancelledUnclaimed existing then
    markExecutionFinished executionId command.header.sessionId AgentState.cancelled
    xack streamName groupName msgId
  else execute worker groupName streamName msgId command executionId existing controller

def withHistory (command : GatewayCommand) (history : JsonValue) : GatewayCommand :=
  command.injectRuntimePayload [("history", history)]

theorem withHistory_header (command : GatewayCommand) (history : JsonValue) :
    (withHistory command history).header = command.header ∧
      (withHistory command history).isResume = command.isResume := by
  cases command <;> exact ⟨rfl, rfl⟩

def consumeMessage (data : GatewayCommand) : Proc σ PUnit := do
  let history ← getSessionHistory data.header.sessionId
  let command := withHistory data history
  let existing ← getExecutionByMessageId command.header.messageId command.header.sessionId
  if replaysTerminal command existing then xack streamName groupName msgId
  else claimMessage worker groupName streamName msgId command existing

def processMessageEntry (data : GatewayCommand) : Proc σ PUnit := do
  match data with
  | .cancelTask _ => handleControlMessage worker.workerId groupName streamName msgId data
  | .resume resume =>
      let admitted ← admitReply worker groupName streamName msgId resume
      Task.when admitted (consumeMessage worker groupName streamName msgId data)
  | _ => consumeMessage worker groupName streamName msgId data

def untrackMessage (messageId : String) : Proc σ PUnit := do
  match truthyText (← ofProcess worker.workerId (.executionOf messageId)) with
  | none => pure ⟨⟩
  | some executionId => ofProcess worker.workerId (.untrack messageId executionId)

def processAndAck (data : GatewayCommand) : Proc σ PUnit :=
  Task.withFinally (processMessageEntry worker groupName streamName msgId data)
    (untrackMessage worker data.header.messageId)

end

end GatewayWorker

/-! ### The consume loop -/

namespace WorkerRunner

def orphanReclaimIdleMs : Int := 15 * 1000 * 4

def orphanReclaimEveryNPolls : Int := 20

def activeAgentTypes (runner : WorkerRunner) : List String :=
  runner.agentTypes.filter fun agentType => agentType ∉ runner.deniedAgentTypes

def readStream (streamName : Key) : Proc WorkerRunner (List StreamMessage) := do
  let runner ← get
  let entries : List (Nat × Value) ←
    redis (.xreadgroup streamName runner.groupName runner.workerId runner.fetchCount)
  pure (parseBatch streamName entries)

def readStreams (agentTypes : List String) : Proc WorkerRunner (List StreamMessage) := do
  let outcomes ← Task.mapEach agentTypes fun agentType =>
    Task.attempt (readStream (.ctrlStream agentType))
  let batches ← Task.mapEach outcomes orThrow
  pure batches.flatten

/-- The entries that are not the runner's own, long idle, and whose worker is offline. -/
def claimableEntries (workerId : String) : List Redis.PendingSummary →
    Proc WorkerRunner (List Nat)
  | [] => pure []
  | waiting :: rest => do
      if waiting.consumer = workerId ∨ waiting.idle < orphanReclaimIdleMs then
        claimableEntries workerId rest
      else
        let online ← isWorkerOnline waiting.consumer
        let others ← claimableEntries workerId rest
        pure (if online then others else waiting.entry :: others)

def reclaimStream (agentType : String) : Proc WorkerRunner (List StreamMessage) := do
  let runner ← get
  let streamName := Key.ctrlStream agentType
  let pending : List Redis.PendingSummary ←
    redis (.xpending streamName runner.groupName orphanReclaimBatch)
  let claimable ← claimableEntries runner.workerId pending
  if claimable.isEmpty then pure []
  else
    let claimed : List (Nat × Value) ← redis
      (.xclaim streamName runner.groupName runner.workerId orphanReclaimIdleMs claimable)
    pure (parseBatch streamName claimed)

def reclaimOrphanedMessages : Proc WorkerRunner (List StreamMessage) := do
  let runner ← get
  let batches ← Task.mapEach runner.activeAgentTypes fun agentType =>
    tryCatch (reclaimStream agentType) fun _ => pure []
  pure batches.flatten

def reclaimDue : Proc WorkerRunner Bool := do
  let runner ← get
  let countdown := runner.reclaimCountdown - 1
  modify fun runner => { runner with
    reclaimCountdown := if countdown ≤ 0 then orphanReclaimEveryNPolls else countdown }
  pure (countdown ≤ 0)

/-- The blocking read of one stream, a different one each time. -/
def readPrimary (agentTypes : List String) : Proc WorkerRunner (List StreamMessage) := do
  let runner ← get
  modify fun runner => { runner with primaryCursor := runner.primaryCursor + 1 }
  match agentTypes[runner.primaryCursor % agentTypes.length]? with
  | none => pure []
  | some agentType => readStream (.ctrlStream agentType)

def poll : Proc WorkerRunner (List StreamMessage) := do
  let runner ← get
  let agentTypes := runner.activeAgentTypes
  if agentTypes.isEmpty then pure []
  else
    let first ← readStreams agentTypes
    if !first.isEmpty then pure first
    else
      let due ← reclaimDue
      let reclaimed ← (if due then reclaimOrphanedMessages else pure [])
      if !reclaimed.isEmpty then pure reclaimed else readPrimary agentTypes

/-- Start `processAndAck` for a message; the loop goes on while it runs. -/
def handOver (workerId : String) (message : StreamMessage) : Proc WorkerRunner PUnit :=
  ofProcess workerId (.handOver message.streamName message.msgId message.command)

def consumeRound : Proc WorkerRunner PUnit := do
  let messages ← poll
  let runner ← get
  Task.forEach messages (handOver runner.workerId)

/-- The loop of `start`, for as many rounds as it gets. -/
def consume : Nat → Proc WorkerRunner PUnit
  | 0 => pure ⟨⟩
  | rounds + 1 => do
      let runner ← get
      let state ← ofProcess runner.workerId .loopState
      if !state.running ∨ state.adminLifecycle = "evicted" ∧ state.healthState ≠ "degraded" then
        pure ⟨⟩
      else if state.adminLifecycle = "suspended" ∨ state.healthState = "degraded" then
        consume rounds
      else
        Task.failSoft consumeRound
        consume rounds

/-- What `start` does once the runner is initialized. -/
def runLoop (rounds : Nat) : Proc WorkerRunner PUnit := do
  let runner ← get
  ofProcess runner.workerId .startLoop
  consume rounds

end WorkerRunner

end ByFramework
