import ByFramework.Records
import ByFramework.Text.Template

/-! The Redis keys as text under both schemas, and the scan that finds the online leases. -/

namespace ByFramework

/-- The factories of `QueueNames` and `RegistryKeys`: those that the tasks use, and the rest. -/
inductive KeyName where
  | used (key : Key)
  | controlPlaneWakeupResultStream (executionId : String)
  | traceMeta (traceId : String)
  | traceSpans (traceId : String)
  | traceIndexSession (sessionId : String)
  | traceIndexWorker (workerId : String)
  | traceIndexAgent (agentType : String)
  | sdActiveInstances (serviceName : String)
  | sdInstanceDetails (serviceName : String)
  | sdServices
  | workerLock (workerId : String)
deriving DecidableEq

namespace KeyName

open Key (versioned tag)

def render (schema : KeySchema) : KeyName → String
  | .used key => key.render schema
  | .controlPlaneWakeupResultStream executionId => versioned schema
      ("byai_gateway:control_plane:mgmt:wakeup:result:" ++ executionId)
      ("control_plane:mgmt:wakeup:result:" ++ executionId)
  | .traceMeta traceId => versioned schema
      ("byai_gateway:trace:" ++ traceId ++ ":meta") ("trace:" ++ tag traceId)
  | .traceSpans traceId => versioned schema
      ("byai_gateway:trace:" ++ traceId ++ ":spans") ("trace:spans:" ++ tag traceId)
  | .traceIndexSession sessionId => versioned schema
      ("byai_gateway:trace:idx:session:" ++ sessionId) ("trace:idx:session:" ++ sessionId)
  | .traceIndexWorker workerId => versioned schema
      ("byai_gateway:trace:idx:worker:" ++ workerId) ("trace:idx:worker:" ++ workerId)
  | .traceIndexAgent agentType => versioned schema
      ("byai_gateway:trace:idx:agent:" ++ agentType) ("trace:idx:agent:" ++ agentType)
  | .sdActiveInstances serviceName => versioned schema
      ("byai_gateway:sd:active:" ++ serviceName) ("sd:" ++ tag serviceName ++ ":active")
  | .sdInstanceDetails serviceName => versioned schema
      ("byai_gateway:sd:instances:" ++ serviceName) ("sd:" ++ tag serviceName ++ ":instances")
  | .sdServices => versioned schema "byai_gateway:sd:services" "sd:services"
  | .workerLock workerId => versioned schema
      ("byai_gateway:registry:worker:lock:" ++ workerId)
      ("registry:worker:" ++ tag workerId ++ ":lock")

end KeyName

/-! ### The scan for online leases -/

def workerScanPattern (schema : KeySchema) (v1Prefix v2Field : String) : String :=
  match schema with
  | .v1 => v1Prefix ++ "*"
  | .v2 => "byai_gateway:v2:registry:worker:\x7b*\x7d:" ++ v2Field

/-- `key.slice(start, end)` -/
def slice (text : List Char) (start finish : Nat) : String :=
  String.ofList ((text.drop start).take (finish - start))

/-- Extract the worker id from a key found by scanning with `workerScanPattern`. -/
def workerIdFromScannedKey (schema : KeySchema) (key v1Prefix v2Field : String) : Option String :=
  let text := key.toList
  match schema with
  | .v1 =>
      if v1Prefix.toList.isPrefixOf text then some (slice text v1Prefix.toList.length text.length)
      else none
  | .v2 =>
      let heading := "byai_gateway:v2:registry:worker:\x7b".toList
      let ending := ("\x7d:" ++ v2Field).toList
      if heading.isPrefixOf text && ending.isSuffixOf text then
        some (slice text heading.length (text.length - ending.length))
      else none

def workerOnlineLeaseScanPattern (schema : KeySchema) : String :=
  workerScanPattern schema "byai_gateway:registry:worker:online:" "online"

def workerIdFromOnlineLeaseKey (schema : KeySchema) (key : String) : Option String :=
  workerIdFromScannedKey schema key "byai_gateway:registry:worker:online:" "online"

/-- Whether `SCAN MATCH` with the pattern for online leases returns a key. -/
def scanFindsLease (schema : KeySchema) (key : String) : Bool :=
  Text.globMatches '*' (workerOnlineLeaseScanPattern schema).toList key.toList

/-! ### Families of keys -/

inductive KeyFamily where
  | ctrlStream
  | workerCtrlStream
  | controlPlaneWakeupStream
  | controlPlaneWakeupResultStream
  | controlPlaneDeliveryPendingStream
  | controlPlaneAgentCircuit
  | controlPlaneAgentFallback
  | controlPlaneUserQuota
  | sessionDataStream
  | taskGroup
  | taskGroupResults
  | traceMeta
  | traceSpans
  | traceIndexSession
  | traceIndexWorker
  | traceIndexAgent
  | knownWorkers
  | sdActiveInstances
  | sdInstanceDetails
  | sdServices
  | workerOnlineLease
  | workerDeclaredAgentTypes
  | agentTypeMembers
  | workerAdminState
  | agentTypeDenied
  | workerLock
  | sessionRegistry
  | waitIndex
  | waitSweepLock
  | waitConsumed
  | waitRenewOrigin
deriving DecidableEq

namespace KeyFamily

/-- What every key of the family begins and ends with under the first schema,
after the common label. -/
def legacy : KeyFamily → String × String
  | .ctrlStream => ("ctrl:agent_type:", "")
  | .workerCtrlStream => ("ctrl:worker:", "")
  | .controlPlaneWakeupStream => ("control_plane:mgmt:wakeup", "")
  | .controlPlaneWakeupResultStream => ("control_plane:mgmt:wakeup:result:", "")
  | .controlPlaneDeliveryPendingStream => ("control_plane:mgmt:delivery:pending", "")
  | .controlPlaneAgentCircuit => ("control_plane:circuit:agent_type:", "")
  | .controlPlaneAgentFallback => ("control_plane:fallback:agent_type:", "")
  | .controlPlaneUserQuota => ("control_plane:quota:user:", "")
  | .sessionDataStream => ("session:", ":data_stream")
  | .taskGroup => ("task_group:", "")
  | .taskGroupResults => ("task_group:", ":results")
  | .traceMeta => ("trace:", ":meta")
  | .traceSpans => ("trace:", ":spans")
  | .traceIndexSession => ("trace:idx:session:", "")
  | .traceIndexWorker => ("trace:idx:worker:", "")
  | .traceIndexAgent => ("trace:idx:agent:", "")
  | .knownWorkers => ("registry:workers", "")
  | .sdActiveInstances => ("sd:active:", "")
  | .sdInstanceDetails => ("sd:instances:", "")
  | .sdServices => ("sd:services", "")
  | .workerOnlineLease => ("registry:worker:online:", "")
  | .workerDeclaredAgentTypes => ("registry:worker:agent_types:", "")
  | .agentTypeMembers => ("registry:agent_type:workers:", "")
  | .workerAdminState => ("registry:worker:admin:", "")
  | .agentTypeDenied => ("registry:agent_type:denied:", "")
  | .workerLock => ("registry:worker:lock:", "")
  | .sessionRegistry => ("session:", ":registry")
  | .waitIndex => ("wait:index:", "")
  | .waitSweepLock => ("wait:sweep_lock:", "")
  | .waitConsumed => ("wait:consumed:", "")
  | .waitRenewOrigin => ("wait:renew_origin:", "")

def tagged : KeyFamily → String × String
  | .ctrlStream => ("ctrl:agent_type:", "")
  | .workerCtrlStream => ("ctrl:worker:" ++ "\x7b", "\x7d")
  | .controlPlaneWakeupStream => ("control_plane:mgmt:wakeup", "")
  | .controlPlaneWakeupResultStream => ("control_plane:mgmt:wakeup:result:", "")
  | .controlPlaneDeliveryPendingStream => ("control_plane:mgmt:delivery:pending", "")
  | .controlPlaneAgentCircuit => ("control_plane:circuit:agent_type:", "")
  | .controlPlaneAgentFallback => ("control_plane:fallback:agent_type:", "")
  | .controlPlaneUserQuota => ("control_plane:quota:user:", "")
  | .sessionDataStream => ("session:" ++ "\x7b", "\x7d" ++ ":data_stream")
  | .taskGroup => ("task_group:" ++ "\x7b", "\x7d")
  | .taskGroupResults => ("task_group:" ++ "\x7b", "\x7d" ++ ":results")
  | .traceMeta => ("trace:" ++ "\x7b", "\x7d")
  | .traceSpans => ("trace:spans:" ++ "\x7b", "\x7d")
  | .traceIndexSession => ("trace:idx:session:", "")
  | .traceIndexWorker => ("trace:idx:worker:", "")
  | .traceIndexAgent => ("trace:idx:agent:", "")
  | .knownWorkers => ("registry:workers", "")
  | .sdActiveInstances => ("sd:" ++ "\x7b", "\x7d" ++ ":active")
  | .sdInstanceDetails => ("sd:" ++ "\x7b", "\x7d" ++ ":instances")
  | .sdServices => ("sd:services", "")
  | .workerOnlineLease => ("registry:worker:" ++ "\x7b", "\x7d" ++ ":online")
  | .workerDeclaredAgentTypes => ("registry:worker:" ++ "\x7b", "\x7d" ++ ":agent_types")
  | .agentTypeMembers => ("registry:agent_type:" ++ "\x7b", "\x7d" ++ ":workers")
  | .workerAdminState => ("registry:worker:" ++ "\x7b", "\x7d" ++ ":admin")
  | .agentTypeDenied => ("registry:agent_type:" ++ "\x7b", "\x7d" ++ ":denied")
  | .workerLock => ("registry:worker:" ++ "\x7b", "\x7d" ++ ":lock")
  | .sessionRegistry => ("session:" ++ "\x7b", "\x7d" ++ ":registry")
  | .waitIndex => ("wait:index:", "")
  | .waitSweepLock => ("wait:sweep_lock:", "")
  | .waitConsumed => ("wait:consumed:" ++ "\x7b", "")
  | .waitRenewOrigin => ("wait:renew_origin:" ++ "\x7b", "")

def spelling (schema : KeySchema) (family : KeyFamily) : String × String :=
  match schema with
  | .v1 => family.legacy
  | .v2 => family.tagged

def label : KeySchema → String
  | .v1 => "byai_gateway:"
  | .v2 => "byai_gateway:v2:"

def template (schema : KeySchema) (family : KeyFamily) : Text.Template Char where
  heading := (label schema ++ (family.spelling schema).1).toList
  ending := (family.spelling schema).2.toList

end KeyFamily

/-- What stands between a session id and a digest. -/
def digestSeparator : KeySchema → String
  | .v1 => ":"
  | .v2 => "\x7d" ++ ":"

namespace KeyName

def family : KeyName → KeyFamily
  | .used (.ctrlStream _) => .ctrlStream
  | .used (.workerCtrlStream _) => .workerCtrlStream
  | .used .controlPlaneWakeupStream => .controlPlaneWakeupStream
  | .used .controlPlaneDeliveryPendingStream => .controlPlaneDeliveryPendingStream
  | .used (.controlPlaneAgentCircuit _) => .controlPlaneAgentCircuit
  | .used (.controlPlaneAgentFallback _) => .controlPlaneAgentFallback
  | .used (.controlPlaneUserQuota _) => .controlPlaneUserQuota
  | .used (.sessionDataStream _) => .sessionDataStream
  | .used (.taskGroup _) => .taskGroup
  | .used (.taskGroupResults _) => .taskGroupResults
  | .used .knownWorkers => .knownWorkers
  | .used (.workerOnlineLease _) => .workerOnlineLease
  | .used (.workerDeclaredAgentTypes _) => .workerDeclaredAgentTypes
  | .used (.agentTypeMembers _) => .agentTypeMembers
  | .used (.workerAdminState _) => .workerAdminState
  | .used (.agentTypeDenied _) => .agentTypeDenied
  | .used (.sessionRegistry _) => .sessionRegistry
  | .used (.waitIndex _) => .waitIndex
  | .used (.waitSweepLock _) => .waitSweepLock
  | .used (.waitConsumed _ _) => .waitConsumed
  | .used (.waitRenewOrigin _ _) => .waitRenewOrigin
  | .controlPlaneWakeupResultStream _ => .controlPlaneWakeupResultStream
  | .traceMeta _ => .traceMeta
  | .traceSpans _ => .traceSpans
  | .traceIndexSession _ => .traceIndexSession
  | .traceIndexWorker _ => .traceIndexWorker
  | .traceIndexAgent _ => .traceIndexAgent
  | .sdActiveInstances _ => .sdActiveInstances
  | .sdInstanceDetails _ => .sdInstanceDetails
  | .sdServices => .sdServices
  | .workerLock _ => .workerLock

def middle (schema : KeySchema) : KeyName → String
  | .used (.ctrlStream id) | .used (.workerCtrlStream id) | .used (.controlPlaneAgentCircuit id)
  | .used (.controlPlaneAgentFallback id) | .used (.controlPlaneUserQuota id)
  | .used (.sessionDataStream id) | .used (.taskGroup id) | .used (.taskGroupResults id)
  | .used (.workerOnlineLease id) | .used (.workerDeclaredAgentTypes id)
  | .used (.agentTypeMembers id) | .used (.workerAdminState id) | .used (.agentTypeDenied id)
  | .used (.sessionRegistry id) | .controlPlaneWakeupResultStream id | .traceMeta id
  | .traceSpans id | .traceIndexSession id | .traceIndexWorker id | .traceIndexAgent id
  | .sdActiveInstances id | .sdInstanceDetails id | .workerLock id => id
  | .used (.waitIndex shard) | .used (.waitSweepLock shard) => toString shard
  | .used (.waitConsumed sessionId memberDigest)
  | .used (.waitRenewOrigin sessionId memberDigest) =>
      sessionId ++ digestSeparator schema ++ memberDigest
  | .used .controlPlaneWakeupStream | .used .controlPlaneDeliveryPendingStream
  | .used .knownWorkers | .sdServices => ""

end KeyName

end ByFramework
