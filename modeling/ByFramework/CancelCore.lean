import ByFramework.DispatchCore

/-! Commands sent without a route of their own, and the cascade that cancels a call tree. -/

namespace ByFramework

open Async

inductive ExecutionStatus where
  | queued
  | failed
  | notFound
  | alreadyFinished
  | cancelRequested
deriving DecidableEq, Repr

structure CancelTaskParams where
  messageId : String
  sessionId : String
  reason : String := ""
  targetAgentType : String := ""
  requestedBy : String := ""
  force : Bool := false

structure CancelTaskResponse where
  success : Bool
  messageId : String
  executionId : String
  workerId : String
  status : ExecutionStatus
  error : String := ""
  cancelledCount : Nat := 0
deriving DecidableEq, Repr

structure CancelSessionParams where
  sessionId : String
  reason : String := ""
  targetAgentType : String := ""
  requestedBy : String := ""
  force : Bool := false

structure CancelSessionResponse where
  success : Bool
  sessionId : String
  status : ExecutionStatus
  cancelledCount : Nat := 0
  alreadyFinishedCount : Nat := 0
deriving DecidableEq, Repr

/-! ### The subtree of an execution -/

def childrenOf (allExecutions : List ExecutionRecord) (messageId : String) :
    List ExecutionRecord :=
  if messageId = "" then []
  else allExecutions.filter fun execution => execution.parentMessageId = messageId

/-- Breadth first from a queue; `none` when `fuel` iterations do not empty it. -/
def collectSubtree (allExecutions : List ExecutionRecord) :
    Nat → List ExecutionRecord → Option (List ExecutionRecord)
  | _, [] => some []
  | 0, _ :: _ => none
  | fuel + 1, current :: queue =>
      (collectSubtree allExecutions fuel
        (queue ++ childrenOf allExecutions current.messageId)).map (current :: ·)

section

variable {σ : Type}

/-- Find the suspended execution a resume continues; a failed look-up finds none. -/
def lookupResumedExecution (messageId sessionId : String) : Proc σ (Option ExecutionRecord) :=
  tryCatch (getExecutionByMessageId messageId sessionId) fun _ => pure none

/-- The execution that a command continues, which only a resume does. -/
def resumedExecution (command : GatewayCommand) : Proc σ (Option ExecutionRecord) :=
  if command.isResume then
    lookupResumedExecution command.header.messageId command.header.sessionId
  else pure none

/-- Leave a queued record of a sent command, unless it continues a tracked execution. -/
def trackSentCommand (command : GatewayCommand) (streamName : Key) : Proc σ PUnit := do
  let header := command.header
  match ← resumedExecution command with
  | some _ => pure ⟨⟩
  | none =>
      let executionId ← generateExecutionId
      Task.failSoft (initializeExecution
        { executionId := executionId
          messageId := header.messageId
          sessionId := header.sessionId
          traceId := header.traceId
          parentMessageId := header.parentMessageId
          sourceAgentType := orElseText header.sourceAgentType clientSourceAgentType
          targetAgentType := header.targetAgentType
          streamName := some streamName
          status := AgentState.queued })

def sendCommand (command : GatewayCommand) (streamName : Option Key) : Proc σ PUnit := do
  let resolvedStreamName := streamName.getD (.ctrlStream command.header.targetAgentType)
  if streamName.isNone ∧ command.header.targetAgentType ≠ "" then
    match command with
    | .askAgent ask => publishAskAgentCommand ask resolvedStreamName clientSourceAgentType
    | command =>
        trackSentCommand command resolvedStreamName
        let _ ← redis (.xadd resolvedStreamName (.command command))
  else
    let _ ← redis (.xadd resolvedStreamName (.command command))

def cancelExecution (params : CancelTaskParams) (execution : ExecutionRecord) : Proc σ PUnit := do
  markExecutionCancelling execution.executionId params.sessionId params.reason
  let messageId ← shortId "msg-cancel-"
  let traceId ← plainId
  if nonEmpty : execution.messageId ≠ "" then
    let command : CancelTaskCommand :=
      { header :=
          { messageId := messageId
            sessionId := params.sessionId
            traceId := traceId
            targetAgentType := orElseText params.targetAgentType execution.targetAgentType
            parentMessageId := execution.messageId }
        targetMessageId := execution.messageId
        targetExecutionId := execution.executionId
        targetWorkerId := execution.workerId
        reason := params.reason
        requestedBy := orElseText params.requestedBy "client"
        force := params.force
        nonEmpty := nonEmpty }
    if execution.workerId ≠ "" then
      sendCommand (.cancelTask command) (some (.workerCtrlStream execution.workerId))
  else throw ⟨"Error", "CancelTaskCommand requires targetMessageId"⟩

/-- Cancel an execution and all its descendants; `fuel` bounds the search for them. -/
def cancelTask (fuel : Nat) (params : CancelTaskParams) : Proc σ (Option CancelTaskResponse) := do
  let allExecutions ← getAllSessionExecutions params.sessionId
  match List.find? (fun execution => execution.messageId = params.messageId) allExecutions with
  | none =>
      pure (some
        { success := false
          messageId := params.messageId
          executionId := ""
          workerId := ""
          status := .notFound
          error := "execution not found for message_id=" ++ params.messageId })
  | some target =>
      let failed (status : ExecutionStatus) (error : String) : CancelTaskResponse :=
        { success := false
          messageId := params.messageId
          executionId := target.executionId
          workerId := target.workerId
          status := status
          error := error }
      if target.sessionId ≠ params.sessionId then
        pure (some (failed .notFound ("session mismatch for message_id=" ++ params.messageId)))
      else
        match collectSubtree allExecutions fuel [target] with
        | none => pure none
        | some subtree =>
            let finished := subtree.filter fun execution => isTerminalState execution.status
            let toCancel := subtree.filter fun execution => !isTerminalState execution.status
            Task.forEach finished fun execution =>
              markCancelRequested execution.executionId params.sessionId params.reason
            if toCancel.isEmpty then
              pure (some (failed .alreadyFinished "all executions already in terminal state"))
            else
              Task.forEach toCancel (cancelExecution params)
              pure (some
                { success := true
                  messageId := params.messageId
                  executionId := target.executionId
                  workerId := target.workerId
                  status := .cancelRequested
                  cancelledCount := toCancel.length })

def cancelExecutionOfSession (params : CancelSessionParams) (execution : ExecutionRecord) :
    Proc σ PUnit := do
  markExecutionCancelling execution.executionId params.sessionId params.reason
  Task.when (execution.workerId ≠ "") do
    let messageId ← shortId "msg-cancel-"
    let traceId ← plainId
    if nonEmpty : execution.messageId ≠ "" then
      let command : CancelTaskCommand :=
        { header :=
            { messageId := messageId
              sessionId := params.sessionId
              traceId := traceId
              targetAgentType := orElseText params.targetAgentType execution.targetAgentType
              parentMessageId := execution.messageId }
          targetMessageId := execution.messageId
          targetExecutionId := execution.executionId
          targetWorkerId := execution.workerId
          reason := params.reason
          requestedBy := orElseText params.requestedBy "client"
          force := params.force
          nonEmpty := nonEmpty }
      sendCommand (.cancelTask command) (some (.workerCtrlStream execution.workerId))
    else throw ⟨"Error", "CancelTaskCommand requires targetMessageId"⟩

def cancelSession (params : CancelSessionParams) : Proc σ CancelSessionResponse := do
  let allExecutions ← getAllSessionExecutions params.sessionId
  if List.isEmpty allExecutions then pure ⟨false, params.sessionId, .notFound, 0, 0⟩
  else
    let toCancel := allExecutions.filter fun execution => !isTerminalState execution.status
    let finished := allExecutions.filter fun execution => isTerminalState execution.status
    Task.forEach finished fun execution =>
      markCancelRequested execution.executionId params.sessionId params.reason
    if toCancel.isEmpty then
      pure ⟨false, params.sessionId, .alreadyFinished, 0, finished.length⟩
    else
      Task.forEach toCancel (cancelExecutionOfSession params)
      pure ⟨true, params.sessionId, .cancelRequested, toCancel.length, finished.length⟩

end

end ByFramework
