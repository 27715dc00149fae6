import ByFramework.Protocol

/-!
What the framework keeps in Redis: the keys it spells and the values behind them. A value
stands for the JSON text that is stored; keys are rendered under both key schemas.
-/

namespace ByFramework

/-- The keys of `QueueNames` and `RegistryKeys`, one constructor for each factory. -/
inductive Key where
  | ctrlStream (agentType : String)
  | workerCtrlStream (workerId : String)
  | controlPlaneWakeupStream
  | controlPlaneDeliveryPendingStream
  | controlPlaneAgentCircuit (agentType : String)
  | controlPlaneAgentFallback (agentType : String)
  | controlPlaneUserQuota (userCode : String)
  | sessionDataStream (sessionId : String)
  | taskGroup (groupId : String)
  | taskGroupResults (groupId : String)
  | knownWorkers
  | workerOnlineLease (workerId : String)
  | workerDeclaredAgentTypes (workerId : String)
  | agentTypeMembers (agentType : String)
  | workerAdminState (workerId : String)
  | agentTypeDenied (agentType : String)
  | sessionRegistry (sessionId : String)
  | waitIndex (shard : Nat)
  | waitSweepLock (shard : Nat)
  | waitConsumed (sessionId memberDigest : String)
  | waitRenewOrigin (sessionId memberDigest : String)
deriving DecidableEq, Repr

inductive KeySchema where
  | v1
  | v2
deriving DecidableEq, Repr

namespace Key

/-- `versioned(v1, v2)`: only the second spelling carries the shared version label. -/
def versioned (schema : KeySchema) (first second : String) : String :=
  match schema with
  | .v1 => first
  | .v2 => "byai_gateway:v2:" ++ second

def tag (id : String) : String := "\x7b" ++ id ++ "\x7d"

def render (schema : KeySchema) : Key → String
  | .ctrlStream agentType => versioned schema
      ("byai_gateway:ctrl:agent_type:" ++ agentType) ("ctrl:agent_type:" ++ agentType)
  | .workerCtrlStream workerId => versioned schema
      ("byai_gateway:ctrl:worker:" ++ workerId) ("ctrl:worker:" ++ tag workerId)
  | .controlPlaneWakeupStream => versioned schema
      "byai_gateway:control_plane:mgmt:wakeup" "control_plane:mgmt:wakeup"
  | .controlPlaneDeliveryPendingStream => versioned schema
      "byai_gateway:control_plane:mgmt:delivery:pending" "control_plane:mgmt:delivery:pending"
  | .controlPlaneAgentCircuit agentType => versioned schema
      ("byai_gateway:control_plane:circuit:agent_type:" ++ agentType)
      ("control_plane:circuit:agent_type:" ++ agentType)
  | .controlPlaneAgentFallback agentType => versioned schema
      ("byai_gateway:control_plane:fallback:agent_type:" ++ agentType)
      ("control_plane:fallback:agent_type:" ++ agentType)
  | .controlPlaneUserQuota userCode => versioned schema
      ("byai_gateway:control_plane:quota:user:" ++ userCode)
      ("control_plane:quota:user:" ++ userCode)
  | .sessionDataStream sessionId => versioned schema
      ("byai_gateway:session:" ++ sessionId ++ ":data_stream")
      ("session:" ++ tag sessionId ++ ":data_stream")
  | .taskGroup groupId => versioned schema
      ("byai_gateway:task_group:" ++ groupId) ("task_group:" ++ tag groupId)
  | .taskGroupResults groupId => versioned schema
      ("byai_gateway:task_group:" ++ groupId ++ ":results")
      ("task_group:" ++ tag groupId ++ ":results")
  | .knownWorkers => versioned schema "byai_gateway:registry:workers" "registry:workers"
  | .workerOnlineLease workerId => versioned schema
      ("byai_gateway:registry:worker:online:" ++ workerId)
      ("registry:worker:" ++ tag workerId ++ ":online")
  | .workerDeclaredAgentTypes workerId => versioned schema
      ("byai_gateway:registry:worker:agent_types:" ++ workerId)
      ("registry:worker:" ++ tag workerId ++ ":agent_types")
  | .agentTypeMembers agentType => versioned schema
      ("byai_gateway:registry:agent_type:workers:" ++ agentType)
      ("registry:agent_type:" ++ tag agentType ++ ":workers")
  | .workerAdminState workerId => versioned schema
      ("byai_gateway:registry:worker:admin:" ++ workerId)
      ("registry:worker:" ++ tag workerId ++ ":admin")
  | .agentTypeDenied agentType => versioned schema
      ("byai_gateway:registry:agent_type:denied:" ++ agentType)
      ("registry:agent_type:" ++ tag agentType ++ ":denied")
  | .sessionRegistry sessionId => versioned schema
      ("byai_gateway:session:" ++ sessionId ++ ":registry")
      ("session:" ++ tag sessionId ++ ":registry")
  | .waitIndex shard => versioned schema
      ("byai_gateway:wait:index:" ++ toString shard) ("wait:index:" ++ toString shard)
  | .waitSweepLock shard => versioned schema
      ("byai_gateway:wait:sweep_lock:" ++ toString shard) ("wait:sweep_lock:" ++ toString shard)
  | .waitConsumed sessionId memberDigest => versioned schema
      ("byai_gateway:wait:consumed:" ++ sessionId ++ ":" ++ memberDigest)
      ("wait:consumed:" ++ tag sessionId ++ ":" ++ memberDigest)
  | .waitRenewOrigin sessionId memberDigest => versioned schema
      ("byai_gateway:wait:renew_origin:" ++ sessionId ++ ":" ++ memberDigest)
      ("wait:renew_origin:" ++ tag sessionId ++ ":" ++ memberDigest)

end Key

def defaultSessionTtl : Nat := 7 * 24 * 3600
def taskGroupTtlSeconds : Nat := 86400
def maxRetryCount : Nat := 3
def waitIndexShards : Nat := 16
def defaultReplyTimeoutMs : Int := 3600000
def defaultAskUserTimeoutMs : Int := 1000 * defaultSessionTtl
def waitSweepLockTtlSeconds : Nat := 60
def waitSweepBatchLimit : Nat := 200
def waitRenewIncrementMs : Int := 300000
def waitRenewMaxMultiple : Int := 3
def waitRenewOriginTtlSeconds : Nat := taskGroupTtlSeconds
def waitConsumedTtlSeconds : Nat := defaultSessionTtl
def waitPruneAfterSeconds : Nat := defaultSessionTtl + 86400
def orphanReclaimBatch : Nat := 50
def clientSourceAgentType := "client"
def taskGroupExpired := "TASK_GROUP_EXPIRED"

/-- The group id under which the result of a single call is stored. -/
def singleCallTaskGroupId (childMessageId : String) : String := "tg-single-" ++ childMessageId

/-! ### Records -/

/-- An execution record of the session registry; a missing field reads as its default. -/
structure ExecutionRecord where
  executionId : String
  messageId : String
  parentMessageId : String := ""
  sessionId : String
  traceId : String := ""
  sourceAgentType : String := ""
  targetAgentType : String := ""
  taskGroupId : String := ""
  metadata : JsonObject := []
  streamName : Option Key := none
  workerId : String := ""
  redisMessageId : Option Nat := none
  status : String := ""
  cancelRequested : Bool := false
  cancelReason : String := ""
  availabilityError : String := ""
  availabilityErrorCode : String := ""
  routePolicy : String := ""
  routeStatus : String := ""
  selectedAgentType : String := ""
  createdAt : Int := 0
  startedAt : Int := 0
  finishedAt : Int := 0
  updatedAt : Int := 0
  timeline : List (String × Int) := []
deriving DecidableEq, Repr

structure WorkerPresence where
  token : Option String
  lastSeen : Int
  ipAddress : String := ""
deriving DecidableEq, Repr

/-- One sub-task's result as the join and the single-call path store it. -/
structure StoredResult where
  status : String
  replyData : JsonValue
  content : JsonValue
  targetAgentType : String
  metadata : JsonObject
  extraPayload : JsonObject
deriving DecidableEq, Repr

structure DataMessage where
  traceId : String
  sessionId : String
  eventType : String
  sourceAgentType : String := ""
  messageId : String := ""
  parentMessageId : String := ""
  timestamp : Int := 0
  data : JsonObject := []
  metadata : JsonObject := []
deriving DecidableEq, Repr

inductive RoutePolicy where
  | failFast
  | sendAnyway
  | wakeAndWait
  | wakeAndQueue
  | queueOnly
  | unsupported (name : String)
deriving DecidableEq, Repr

def RoutePolicy.text : RoutePolicy → String
  | .failFast => "FAIL_FAST"
  | .sendAnyway => "SEND_ANYWAY"
  | .wakeAndWait => "WAKE_AND_WAIT"
  | .wakeAndQueue => "WAKE_AND_QUEUE"
  | .queueOnly => "QUEUE_ONLY"
  | .unsupported name => name

def RoutePolicy.isSupported : RoutePolicy → Bool
  | .unsupported _ => false
  | _ => true

inductive AvailabilityStatus where
  | deliverNow
  | waitAndDeliver
  | queuePending
  | reject
  | fallbackToOtherAgentType
deriving DecidableEq, Repr

def AvailabilityStatus.text : AvailabilityStatus → String
  | .deliverNow => "DELIVER_NOW"
  | .waitAndDeliver => "WAIT_AND_DELIVER"
  | .queuePending => "QUEUE_PENDING"
  | .reject => "REJECT"
  | .fallbackToOtherAgentType => "FALLBACK_TO_OTHER_AGENT_TYPE"

/-- What a publisher asks the availability router for. -/
structure DeliveryIntent where
  executionId : String
  messageId : String
  sessionId : String
  traceId : String
  source : String
  targetAgentType : String
  userCode : String := ""
  region : String := ""
  priority : Int := 0
  policy : RoutePolicy
  timeoutMs : Option Int := none
  command : GatewayCommand
  metadata : JsonObject := []
deriving DecidableEq

inductive Value where
  | text (value : String)
  | number (value : Int)
  | json (value : JsonValue)
  | execution (record : ExecutionRecord)
  | presence (presence : WorkerPresence)
  | result (result : StoredResult)
  | command (command : GatewayCommand)
  | event (message : DataMessage)
  | wakeup (intent : DeliveryIntent)
  | pendingDelivery (deliveryStream : Key) (intent : DeliveryIntent)
deriving DecidableEq

instance : Redis.Counting Value where
  ofInt := .number
  toInt
    | .number value => some value
    | _ => none
  toInt_ofInt _ := rfl

/-- `exec:<id>` -/
def execField (executionId : String) : String := "exec:" ++ executionId

/-- `msg_map:<id>` -/
def msgMapField (messageId : String) : String := "msg_map:" ++ messageId

end ByFramework
