import ByFramework.CancelCore
import ByFramework.GroupJoinCore
import ByFramework.WaitReplyCore

/-! The sweep that resolves suspended callers whose reply is never going to arrive. -/

namespace ByFramework

open Async

inductive SweepOutcome where
  | malformed
  | callerMissing
  | callerTerminal
  | callerLost
  | callerNotSuspended
  | askUserSkipped
  | groupGone
  | groupAborted
  | groupAlreadyJoined
  | childWaiting
  | childAlive
  | recovered
  | workerLost
  | neverStarted
  | timedOut
  | unroutable
  | error
  | pruned
deriving DecidableEq, Repr

namespace LivenessErrorCode

def childWorkerLost := "CHILD_WORKER_LOST"
def childNeverStarted := "CHILD_NEVER_STARTED"
def childTimeout := "CHILD_TIMEOUT"
def replyLostRecovered := "REPLY_LOST_RECOVERED"

end LivenessErrorCode

/-- The status without the reason that may decorate it. -/
def baseStatus (status : String) : String :=
  trim (String.ofList (status.toList.takeWhile (· ≠ ':')))

def isSuspendedState (state : String) : Bool :=
  state ∈ [AgentState.waitingAgent, AgentState.waitingUser]

theorem not_suspended_of_terminal {status : String} (terminal : isTerminalState status = true) :
    isSuspendedState status = false := by
  simp only [isTerminalState, terminalStates, List.mem_cons, List.not_mem_nil, or_false,
    decide_eq_true_eq] at terminal
  rcases terminal with rfl | rfl | rfl <;> decide

/-- A wait that came due, with the score it carried when it was read. -/
structure DueEntry where
  indexKey : Key
  member : String
  deadlineMs : Int
  entry : WaitIndexMember

theorem pruneInterval_default : (1 : Int) ≤ 3600 := by decide

theorem renewMaxMultiple_default : 1 ≤ waitRenewMaxMultiple := by decide

structure SweeperOptions where
  workerId : String
  enabled : Bool
  pruneEnabled : Bool := true
  pruneIntervalSeconds : Int := 3600
  renewMaxMultiple : Int := waitRenewMaxMultiple
  cancelOnTimeout : Bool := true
  lockTtlSeconds : Nat := waitSweepLockTtlSeconds
  /-- How many executions a cascade may visit. -/
  searchFuel : Nat
  pruneInterval_pos : 1 ≤ pruneIntervalSeconds := by
    first | exact pruneInterval_default | decide
  renewMaxMultiple_pos : 1 ≤ renewMaxMultiple := by
    first | exact renewMaxMultiple_default | decide

structure SweeperMemory where
  shardCursor : Nat
  lastPruneMs : Option Int := none

abbrev Outcomes := List (SweepOutcome × Nat)

def Outcomes.add (outcomes : Outcomes) (outcome : SweepOutcome) (count : Nat) : Outcomes :=
  if outcomes.any fun entry => entry.1 = outcome then
    outcomes.map fun entry => if entry.1 = outcome then (outcome, entry.2 + count) else entry
  else outcomes ++ [(outcome, count)]

def Outcomes.merge (outcomes more : Outcomes) : Outcomes :=
  more.foldl (fun total entry => total.add entry.1 entry.2) outcomes

def wholeNumber (text : String) : Int :=
  let digits := (trim text).toList
  if digits.all Char.isDigit then (parseInt text).getD 0 else 0

def asInt : Option Value → Int
  | some (.number value) => value
  | some (.text value) => wholeNumber value
  | _ => 0

section

variable {σ : Type}

/-- Push a deadline out by a fixed increment, whether or not the entry is still there. -/
def extendDeadline (due : DueEntry) : Proc σ PUnit := do
  Task.failSoft do
    let _ ← redis (.set (.waitRenewOrigin due.entry.sessionId (memberDigest due.member))
      (.number due.deadlineMs) true (some waitRenewOriginTtlSeconds))
  let now ← dateNow
  let _ ← redis (.zadd due.indexKey due.member (now + waitRenewIncrementMs))

structure StandInParams where
  child : Option ExecutionRecord
  status : String
  content : JsonValue
  replyData : JsonValue
  extraPayload : JsonObject
  errorCode : String
  metadata : JsonObject

/-- Put a stand-in on the caller's control stream and renew its wait. -/
def emitReply (options : SweeperOptions) (due : DueEntry) (caller : ExecutionRecord)
    (params : StandInParams) : Proc σ Bool := do
  let callerAgentType := orElseText
    ((params.child.map ExecutionRecord.sourceAgentType).getD "") caller.targetAgentType
  if callerAgentType = "" then
    extendDeadline due
    pure false
  else
    let command ← standInReply
      { sessionId := due.entry.sessionId
        callerMessageId := due.entry.parentMessageId
        callerAgentType := callerAgentType
        childMessageId := due.entry.childMessageId
        childAgentType := (params.child.map ExecutionRecord.targetAgentType).getD ""
        taskGroupId := due.entry.taskGroupId
        traceId := orElseText ((params.child.map ExecutionRecord.traceId).getD "") caller.traceId
        status := params.status
        content := params.content
        replyData := params.replyData
        extraPayload := params.extraPayload
        metadata := spread params.metadata [("sweeper_worker_id", .string options.workerId)]
        errorCode := params.errorCode
        synthesizedBy := synthesizedBySweeper }
    let _ ← redis (.xadd (.ctrlStream callerAgentType) (.command (.resume command)))
    extendDeadline due
    pure true

def synthesizeFailure (options : SweeperOptions) (due : DueEntry) (caller : ExecutionRecord)
    (child : Option ExecutionRecord) (errorCode message status : String)
    (outcome : SweepOutcome) : Proc σ SweepOutcome := do
  let emitted ← emitReply options due caller
    { child := child
      status := orElseText status AgentState.failed
      content := .string ""
      replyData := failureReplyData message errorCode due.entry.childMessageId
      extraPayload := []
      errorCode := errorCode
      metadata := (child.map ExecutionRecord.metadata).getD [] }
  pure (if emitted then outcome else .unroutable)

def loadStoredResult (childMessageId : String) : Proc σ (Option StoredResult) := do
  match ← redis (.hget (.taskGroupResults (singleCallTaskGroupId childMessageId))
    childMessageId) with
  | some (.result stored) => pure (some stored)
  | _ => pure none

/-- Rebuild the reply of a callee that finished and was never heard. -/
def recoverFinishedChild (options : SweeperOptions) (due : DueEntry)
    (caller child : ExecutionRecord) : Proc σ SweepOutcome := do
  let childStatus := baseStatus child.status
  match ← loadStoredResult due.entry.childMessageId with
  | none =>
      synthesizeFailure options due caller (some child) LivenessErrorCode.replyLostRecovered
        ("Sub-task " ++ due.entry.childMessageId ++ " finished with " ++ childStatus ++
          " but neither its reply nor its stored result is available")
        (if childStatus ∈ [AgentState.failed, AgentState.cancelled] then childStatus
          else AgentState.failed)
        .recovered
  | some stored =>
      let _ ← emitReply options due caller
        { child := some child
          status := orElseText stored.status childStatus
          content := if stored.content.truthy then stored.content else .string ""
          replyData := stored.replyData
          extraPayload := stored.extraPayload
          errorCode := LivenessErrorCode.replyLostRecovered
          metadata := stored.metadata }
      pure .recovered

/-- The instant past which a wait is not renewed any more. -/
def renewalCeilingMs (options : SweeperOptions) (due : DueEntry) (child : ExecutionRecord) :
    Proc σ Int := do
  let stored ← tryCatch
    (redis (.get (.waitRenewOrigin due.entry.sessionId (memberDigest due.member))))
    fun _ => pure (none : Option Value)
  let originMs := if asInt stored = 0 then due.deadlineMs else asInt stored
  let registeredMs := child.createdAt
  let timeoutMs := originMs - registeredMs
  let usableMs := if registeredMs ≤ 0 ∨ timeoutMs ≤ 0 then defaultReplyTimeoutMs else timeoutMs
  pure (originMs + max (usableMs * (options.renewMaxMultiple - 1)) waitRenewIncrementMs)

/-- Ask a callee that ran past its ceiling to stop; whatever goes wrong is swallowed. -/
def cancelTimedOutChild (options : SweeperOptions) (due : DueEntry) (child : ExecutionRecord) :
    Proc σ Bool :=
  if !options.cancelOnTimeout || child.cancelRequested then pure false
  else
    let cancel : Proc σ Bool := do
      let response ← cancelTask options.searchFuel
        { messageId := due.entry.childMessageId
          sessionId := due.entry.sessionId
          reason := LivenessErrorCode.childTimeout ++ ": no reply before deadline"
          requestedBy := "wait_sweeper:" ++ options.workerId }
      pure (Option.any CancelTaskResponse.success response)
    tryCatch cancel fun _ => pure false

def triageChild (options : SweeperOptions) (due : DueEntry) (caller : ExecutionRecord) :
    Proc σ SweepOutcome := do
  let subTask := "Sub-task " ++ due.entry.childMessageId
  match ← getExecutionByMessageId due.entry.childMessageId due.entry.sessionId with
  | none =>
      synthesizeFailure options due caller none LivenessErrorCode.childNeverStarted
        ("No execution was ever recorded for sub-task " ++ due.entry.childMessageId) ""
        .neverStarted
  | some child =>
      let childStatus := baseStatus child.status
      if isTerminalState childStatus then recoverFinishedChild options due caller child
      else if isSuspendedState childStatus then
        extendDeadline due
        pure .childWaiting
      else if child.workerId = "" then
        synthesizeFailure options due caller (some child) LivenessErrorCode.childNeverStarted
          (subTask ++ " was never picked up by a worker (status=" ++ childStatus ++ ")") ""
          .neverStarted
      else if ← isWorkerOnline child.workerId then
        let limitMs ← renewalCeilingMs options due child
        if (← dateNow) < limitMs then
          extendDeadline due
          pure .childAlive
        else
          let outcome ← synthesizeFailure options due caller (some child)
            LivenessErrorCode.childTimeout
            (subTask ++ " is still " ++ childStatus ++ " on live worker " ++ child.workerId ++
              " but produced no reply within " ++ toString options.renewMaxMultiple ++
              "x its reply timeout") "" .timedOut
          let _ ← cancelTimedOutChild options due child
          pure outcome
      else
        synthesizeFailure options due caller (some child) LivenessErrorCode.childWorkerLost
          ("Worker " ++ child.workerId ++ " running sub-task " ++ due.entry.childMessageId ++
            " is no longer alive (status=" ++ childStatus ++ ")") "" .workerLost

/-- Remove an entry that nothing can resolve any more. -/
def dropEntry (due : DueEntry) (outcome : SweepOutcome) : Proc σ SweepOutcome := do
  let _ ← redis (.zrem due.indexKey due.member)
  pure outcome

def resolveUnsuspendedCaller (due : DueEntry) (caller : ExecutionRecord) :
    Proc σ SweepOutcome := do
  let lost ← if caller.workerId = "" then pure false else do
    let online ← isWorkerOnline caller.workerId
    pure (!online)
  if lost then dropEntry due .callerLost
  else
    extendDeadline due
    pure .callerNotSuspended

/-- Why a Task Group orphan must be cleaned up; `none` lets the triage run. -/
def groupBlocksCompensation (due : DueEntry) : Proc σ (Option SweepOutcome) := do
  let groupKey := Key.taskGroup due.entry.taskGroupId
  let total ← redis (.hget groupKey taskGroupFieldTotal)
  if Option.isNone total then
    let outcome ← dropEntry due .groupGone
    pure (some outcome)
  else
    let aborted ← redis (.hget groupKey taskGroupFieldAborted)
    if Option.any Value.truthy aborted then
      let outcome ← dropEntry due .groupAborted
      pure (some outcome)
    else
      let recorded ← redis (.hget (.taskGroupResults due.entry.taskGroupId)
        due.entry.childMessageId)
      if Option.isSome recorded then
        let outcome ← dropEntry due .groupAlreadyJoined
        pure (some outcome)
      else pure none

/-- Triage one entry against the evidence that exists. -/
def resolveDecoded (options : SweeperOptions) (due : DueEntry) : Proc σ SweepOutcome := do
  match ← getExecutionByMessageId due.entry.parentMessageId due.entry.sessionId with
  | none => dropEntry due .callerMissing
  | some caller =>
      let callerStatus := baseStatus caller.status
      if isTerminalState callerStatus then dropEntry due .callerTerminal
      else if !isSuspendedState callerStatus then resolveUnsuspendedCaller due caller
      else if due.entry.childMessageId = "" then pure .askUserSkipped
      else
        let blocked ← if due.entry.taskGroupId = "" then pure none
          else groupBlocksCompensation due
        match blocked with
        | some outcome => pure outcome
        | none => triageChild options due caller

def resolveEntry (options : SweeperOptions) (indexKey : Key) (member : String)
    (score : Int) : Proc σ SweepOutcome :=
  match decodeMember member with
  | .error _ => do
      let _ ← redis (.zrem indexKey member)
      pure .malformed
  | .ok entry => resolveDecoded options ⟨indexKey, member, score, entry⟩

/-- Resolve the entries in order; one that throws does not stop the rest. -/
def resolveEach (options : SweeperOptions) (indexKey : Key) :
    List (String × Int) → Outcomes → Proc σ Outcomes
  | [], outcomes => pure outcomes
  | (member, score) :: rest, outcomes => do
      let outcome ← tryCatch (resolveEntry options indexKey member score) fun _ => pure .error
      resolveEach options indexKey rest (outcomes.add outcome 1)

def resolveDueEntries (options : SweeperOptions) (shard : Nat) : Proc σ Outcomes := do
  let indexKey := Key.waitIndex shard
  let now ← dateNow
  let due : List (String × Int) ← redis (.zrangebyscore indexKey 0 now waitSweepBatchLimit)
  resolveEach options indexKey due []

def pruneShard (shard : Nat) : Proc σ Nat := do
  let now ← dateNow
  redis (.zremrangebyscore (.waitIndex shard) 0 (now - 1000 * waitPruneAfterSeconds))

/-- What the holder of a shard's lock does with it; an error ends the work on the shard. -/
def sweepShardHeld (options : SweeperOptions) (shard : Nat) (pruning : Bool) :
    Proc σ Outcomes :=
  let resolve (outcomes : Outcomes) : Proc σ Outcomes :=
    if options.enabled then tryCatch
      (do
        let resolved ← resolveDueEntries options shard
        pure (outcomes.merge resolved))
      fun _ => pure (outcomes.add .error 1)
    else pure outcomes
  if pruning then do
    match ← tryCatch (some <$> pruneShard shard) fun _ => pure none with
    | none => pure [(.error, 1)]
    | some removed => resolve (if removed = 0 then [] else [(.pruned, removed)])
  else resolve []

/-- Claim one shard, prune it and resolve its due entries, then release it. -/
def sweepShard (options : SweeperOptions) (shard : Nat) (pruning : Bool) : Proc σ Outcomes := do
  if !pruning && !options.enabled then pure []
  else
    let token ← plainId
    let lockKey := Key.waitSweepLock shard
    let claimed ← tryCatch (acquireScopedLock lockKey token options.lockTtlSeconds)
      fun _ => pure false
    if !claimed then pure []
    else
      let outcomes ← sweepShardHeld options shard pruning
      Task.failSoft do
        let _ ← releaseScopedLock lockKey token
      pure outcomes

def sweepShards (options : SweeperOptions) (pruning : Bool) :
    List Nat → Outcomes → Proc σ Outcomes
  | [], outcomes => pure outcomes
  | shard :: rest, outcomes => do
      let more ← sweepShard options shard pruning
      sweepShards options pruning rest (outcomes.merge more)

end

def pruneIsDue (options : SweeperOptions) : Proc SweeperMemory Bool := do
  if !options.pruneEnabled then pure false
  else
    let now ← dateNow
    let memory ← get
    if memory.lastPruneMs.any fun last =>
        decide (now - last < options.pruneIntervalSeconds * 1000) then
      pure false
    else
      modify fun memory => { memory with lastPruneMs := some now }
      pure true

def sweepOnce (options : SweeperOptions) : Proc SweeperMemory Outcomes := do
  let pruning ← pruneIsDue options
  let memory ← get
  let shards := (List.range waitIndexShards).map fun offset =>
    (memory.shardCursor + offset) % waitIndexShards
  let outcomes ← sweepShards options pruning shards []
  modify fun memory => { memory with shardCursor := (memory.shardCursor + 1) % waitIndexShards }
  pure outcomes

def sweepLoop (options : SweeperOptions) : Nat → Proc SweeperMemory PUnit
  | 0 => pure ⟨⟩
  | passes + 1 => do
      Task.failSoft do
        let _ ← sweepOnce options
      sweepLoop options passes

end ByFramework
