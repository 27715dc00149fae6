import ByFramework.Effects

/-! The worker registry: presence leases, memberships, and the execution records of a session. -/

namespace ByFramework

open Async

structure DecodedPresence where
  token : Option String
  lastSeen : Int
  isLegacy : Bool
deriving DecidableEq, Repr

mutual

/-- `String(value)` of a JSON value -/
def JsonValue.toText : JsonValue → String
  | .null => "null"
  | .bool value => if value then "true" else "false"
  | .number value => toString value
  | .string value => value
  | .array items => JsonValue.joinTexts items
  | .object _ => "[object Object]"

def JsonValue.joinTexts : List JsonValue → String
  | [] => ""
  | [.null] => ""
  | [item] => item.toText
  | .null :: rest => "," ++ JsonValue.joinTexts rest
  | item :: rest => item.toText ++ "," ++ JsonValue.joinTexts rest

end

def tokenField (fields : JsonObject) : Option String :=
  match fields.lookup "token" with
  | none | some .null => none
  | some token => some token.toText

def lastSeenField (fields : JsonObject) : Int :=
  match fields.lookup "last_seen" with
  | some (.number lastSeen) => lastSeen
  | _ => 0

def decodeWorkerPresence : Option Value → DecodedPresence
  | none => ⟨none, 0, false⟩
  | some (.presence presence) => ⟨presence.token, presence.lastSeen, false⟩
  | some (.json (.object fields)) => ⟨tokenField fields, lastSeenField fields, false⟩
  | some (.json value) => ⟨some value.toText, 0, true⟩
  | some (.number value) => ⟨if value = 1 then none else some (toString value), 0, true⟩
  | some (.text raw) => ⟨some raw, 0, true⟩
  | some _ => ⟨none, 0, false⟩

def decodeLockToken : Option Value → Option String
  | some (.json (.object fields)) => tokenField fields
  | some (.json value) => some value.toText
  | some (.number value) => if value = 1 then none else some (toString value)
  | some (.text raw) => some raw
  | _ => none

def Value.asText : Value → String
  | .text value => value
  | .number value => toString value
  | _ => ""

def truthyText (value : Option String) : Option String := value.filter (· ≠ "")

/-- `left || right` of strings that may be missing -/
def firstTruthy (left right : Option String) : Option String :=
  (truthyText left).or (truthyText right)

section

variable {σ : Type}

def acquireScopedLock (key : Key) (token : String) (ttlSeconds : Nat) : Proc σ Bool :=
  redis (.set key (.json (.object [("token", .string token)])) true (some ttlSeconds))

/-- An empty token releases whatever is there. -/
def releaseScopedLock (key : Key) (token : String) : Proc σ Bool := do
  let raw ← redis (.get key)
  if Option.isNone raw then pure (token = "")
  else if token = "" then
    let _ ← redis (.del key)
    pure true
  else if decodeLockToken raw ≠ some token then pure false
  else
    let _ ← redis (.del key)
    pure true

def isWorkerDeniedForType (agentType workerId : String) : Proc σ Bool :=
  redis (.sismember (.agentTypeDenied agentType) workerId)

def registerWorkerMembership (workerId : String) (agentTypes : List String) : Proc σ PUnit := do
  let _ ← redis (.sadd .knownWorkers workerId)
  Task.forEach agentTypes fun agentType => do
    let _ ← redis (.sadd (.workerDeclaredAgentTypes workerId) agentType)
    let denied ← isWorkerDeniedForType agentType workerId
    if !denied then
      let _ ← redis (.sadd (.agentTypeMembers agentType) workerId)

def unregisterWorkerMembership (workerId : String) : Proc σ PUnit := do
  let agentTypes : List String ← redis (.smembers (.workerDeclaredAgentTypes workerId))
  let _ ← redis (.del (.workerDeclaredAgentTypes workerId))
  let _ ← redis (.srem .knownWorkers workerId)
  Task.forEach agentTypes fun agentType => do
    let _ ← redis (.srem (.agentTypeMembers agentType) workerId)

def isWorkerOnline (workerId : String) : Proc σ Bool := do
  let leaseValue ← redis (.get (.workerOnlineLease workerId))
  let presence := decodeWorkerPresence leaseValue
  pure (Option.isSome leaseValue && (presence.isLegacy || decide (0 < presence.lastSeen)))

def onlineOf : List String → Proc σ (List String)
  | [] => pure []
  | workerId :: rest => do
      let online ← isWorkerOnline workerId
      let others ← onlineOf rest
      pure (if online then workerId :: others else others)

/-- The online workers of an agent type; there is one when the list is not empty. -/
def hasOnlineAgentType (agentType : String) : Proc σ (List String) := do
  let workers : List String ← redis (.smembers (.agentTypeMembers agentType))
  onlineOf workers

/-- `SREM` the worker from every agent type it declares, which it goes on declaring. -/
def removeWorkerFromTypeMembers (workerId : String) : Proc σ PUnit := do
  let agentTypes : List String ← redis (.smembers (.workerDeclaredAgentTypes workerId))
  Task.forEach agentTypes fun agentType => do
    let _ ← redis (.srem (.agentTypeMembers agentType) workerId)

def restoreWorkerToTypeMembers (workerId : String) : Proc σ PUnit := do
  let agentTypes : List String ← redis (.smembers (.workerDeclaredAgentTypes workerId))
  Task.forEach agentTypes fun agentType => do
    let denied ← isWorkerDeniedForType agentType workerId
    if !denied then
      let _ ← redis (.sadd (.agentTypeMembers agentType) workerId)

def setWorkerAdminState (workerId lifecycle reason : String) : Proc σ PUnit := do
  let now ← dateNow
  pipeline
    [.hset (.workerAdminState workerId) [("lifecycle", .text lifecycle)],
      .hset (.workerAdminState workerId) [("reason", .text reason)],
      .hset (.workerAdminState workerId) [("updated_at", .number now)]]

def getWorkerAdminState (workerId : String) : Proc σ (List (String × Value)) :=
  redis (.hgetall (.workerAdminState workerId))

def clearWorkerAdminState (workerId : String) : Proc σ PUnit := do
  let _ ← redis (.del (.workerAdminState workerId))

def denyWorkerForType (agentType workerId : String) : Proc σ PUnit :=
  pipeline
    [.sadd (.agentTypeDenied agentType) workerId, .srem (.agentTypeMembers agentType) workerId]

def allowWorkerForType (agentType workerId : String) : Proc σ PUnit := do
  let _ ← redis (.srem (.agentTypeDenied agentType) workerId)

end

/-! ### The worker id and its lease -/

/-- What a registry object remembers: the tokens of the ids that its process claimed. -/
structure WorkerRegistry where
  lockTokens : List (String × String) := []
  ipAddress : String := ""
deriving DecidableEq, Repr

namespace WorkerRegistry

def lockToken (registry : WorkerRegistry) (workerId : String) : Option String :=
  registry.lockTokens.lookup workerId

def claimWorkerId (workerId : String) (ttlSeconds : Nat) : Proc WorkerRegistry String := do
  let registry ← get
  let token ← plainId
  let key := Key.workerOnlineLease workerId
  let ok : Bool ← redis
    (.set key (.presence ⟨some token, 0, registry.ipAddress⟩) true (some ttlSeconds))
  if !ok then throw ⟨"Error", "worker_id already in use: " ++ workerId⟩
  modify fun registry =>
    { registry with lockTokens := Redis.upsert workerId token registry.lockTokens }
  let _ ← redis (.sadd .knownWorkers workerId)
  pure token

def heartbeatWorker (workerId : String) (leaseTtlSeconds : Nat) : Proc WorkerRegistry Bool := do
  let now ← dateNow
  let registry ← get
  let key := Key.workerOnlineLease workerId
  let current ← redis (.get key)
  let held := (decodeWorkerPresence current).token
  let beat (token : Option String) (ifAbsent : Bool) : Proc WorkerRegistry Bool :=
    redis (.set key (.presence ⟨token, now, registry.ipAddress⟩) ifAbsent (some leaseTtlSeconds))
  let written ← match truthyText (registry.lockToken workerId) with
    | some token =>
        if Option.isNone current then beat (some token) true
        else if held ≠ some token then pure false
        else beat (some token) false
    | none => if held ≠ none then pure false else beat none false
  if !written then pure false
  else
    let _ ← redis (.sadd .knownWorkers workerId)
    pure true

def refreshWorkerIdLock (workerId : String) (ttlSeconds : Nat) : Proc WorkerRegistry Bool := do
  let registry ← get
  match truthyText (registry.lockToken workerId) with
  | none => pure false
  | some token =>
      let key := Key.workerOnlineLease workerId
      let current ← redis (.get key)
      if (decodeWorkerPresence current).token ≠ some token then pure false
      else redis (.expire key ttlSeconds)

/-- Delete the lease; without any token to expect, whoever holds it. -/
def markWorkerInactive (workerId : String) (token : Option String) :
    Proc WorkerRegistry Bool := do
  let registry ← get
  let expected := firstTruthy token (registry.lockToken workerId)
  let key := Key.workerOnlineLease workerId
  let current ← redis (.get key)
  if expected.isSome ∧ (decodeWorkerPresence current).token ≠ expected then pure false
  else
    let _ ← redis (.del key)
    pure true

def releaseWorkerId (workerId : String) (token : Option String) : Proc WorkerRegistry Bool := do
  let registry ← get
  match firstTruthy token (registry.lockToken workerId) with
  | none => pure false
  | some expected =>
      let key := Key.workerOnlineLease workerId
      let current ← redis (.get key)
      if (decodeWorkerPresence current).token ≠ some expected then pure false
      else
        let _ ← redis (.del key)
        modify fun registry => { registry with
          lockTokens := registry.lockTokens.filter fun entry => entry.1 ≠ workerId }
        pure true

end WorkerRegistry

/-! ### Execution records -/

section

variable {σ : Type}

def syntaxError (message : String) : JsError := ⟨"SyntaxError", message⟩

def writeExecution (sessionId executionId : String) (record : ExecutionRecord) : Proc σ PUnit :=
  pipeline
    [.hset (.sessionRegistry sessionId) [(execField executionId, .execution record)],
      .expire (.sessionRegistry sessionId) defaultSessionTtl]

def writeMappedExecution (record : ExecutionRecord) : Proc σ PUnit :=
  let regKey := Key.sessionRegistry record.sessionId
  pipeline
    [.hset regKey [(execField record.executionId, .execution record)],
      .hset regKey [(msgMapField record.messageId, .text record.executionId)],
      .expire regKey defaultSessionTtl]

def initializeExecution (execution : ExecutionRecord) : Proc σ PUnit := do
  let now ← dateNow
  let status := if execution.status = "" then AgentState.queued else execution.status
  writeMappedExecution { execution with
    createdAt := now
    updatedAt := now
    startedAt := 0
    finishedAt := 0
    timeline := [(status, now)] }

def saveExecution (execution : ExecutionRecord) : Proc σ PUnit := do
  let now ← dateNow
  let status := if execution.status = "" then AgentState.queued else execution.status
  writeMappedExecution { execution with
    createdAt := if execution.createdAt = 0 then now else execution.createdAt
    updatedAt := if execution.updatedAt = 0 then now else execution.updatedAt
    timeline := if execution.timeline.isEmpty then [(status, now)] else execution.timeline }

def getExecution (executionId sessionId : String) : Proc σ (Option ExecutionRecord) := do
  if sessionId = "" then pure none
  else match ← redis (.hget (.sessionRegistry sessionId) (execField executionId)) with
    | some (.execution record) => pure (some record)
    | none | some (.text "") => pure none
    | some _ => throw (syntaxError "Unexpected token in JSON")

def getExecutionByMessageId (messageId sessionId : String) :
    Proc σ (Option ExecutionRecord) := do
  if sessionId = "" then pure none
  else
    let mapped ← redis (.hget (.sessionRegistry sessionId) (msgMapField messageId))
    let executionId := (Option.map Value.asText mapped).getD ""
    if executionId = "" then pure none else getExecution executionId sessionId

/-- Read a record, change it, and write it back; a missing one is left missing. -/
def changeExecution (executionId sessionId : String)
    (change : Int → ExecutionRecord → ExecutionRecord) : Proc σ PUnit := do
  match ← getExecution executionId sessionId with
  | none => pure ⟨⟩
  | some current =>
      let now ← dateNow
      writeExecution sessionId executionId (change now current)

def ExecutionRecord.enter (record : ExecutionRecord) (status : String) (now : Int) :
    ExecutionRecord :=
  { record with
    status := status
    updatedAt := now
    timeline := record.timeline ++ [(status, now)] }

/-- `extra` is what the caller assigns over the record. -/
def updateExecutionStatus (executionId sessionId status : String)
    (extra : ExecutionRecord → ExecutionRecord) : Proc σ PUnit :=
  changeExecution executionId sessionId fun now current =>
    let entered := current.enter status now
    extra (if status = statusRunning ∧ current.startedAt = 0 then { entered with startedAt := now }
      else entered)

/-- Flag a finished execution without touching its status. -/
def markCancelRequested (executionId sessionId reason : String) : Proc σ PUnit :=
  changeExecution executionId sessionId fun now current =>
    { current with
      cancelRequested := true
      cancelReason := if reason = "" then current.cancelReason else reason
      updatedAt := now }

/-- Whatever status the record has by then, it becomes `CANCELLING`. -/
def markExecutionCancelling (executionId sessionId reason : String) : Proc σ PUnit :=
  changeExecution executionId sessionId fun now current =>
    { current.enter AgentState.cancelling now with
      cancelRequested := true
      cancelReason := reason }

def markExecutionFinished (executionId sessionId status : String) : Proc σ PUnit :=
  changeExecution executionId sessionId fun now current =>
    let entered := current.enter status now
    if isTerminalState status then { entered with finishedAt := now } else entered

def isExecField (name : String) : Bool := "exec:".toList.isPrefixOf name.toList

def getAllSessionExecutions (sessionId : String) : Proc σ (List ExecutionRecord) := do
  let allFields : List (String × Value) ← redis (.hgetall (.sessionRegistry sessionId))
  pure (allFields.filterMap fun field => match field with
    | (name, .execution record) => if isExecField name then some record else none
    | _ => none)

end

end ByFramework
