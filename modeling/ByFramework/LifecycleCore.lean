import ByFramework.RegistryCore
import ByFramework.Hash.Sha1

/-! How a runner claims its worker id, sets up its consumer groups, and lets go of both. -/

namespace ByFramework

open Async

def agentEngines := "byai_gateway:consumer_group:agent_engines"

/-! ### Group names -/

/-- The UTF-16 code units that `Array.prototype.sort` compares. -/
def utf16Units (text : String) : List Nat :=
  text.toList.flatMap fun char =>
    if char.toNat < 65536 then [char.toNat]
    else [55296 + (char.toNat - 65536) / 1024, 56320 + (char.toNat - 65536) % 1024]

def unitsBefore : List Nat → List Nat → Bool
  | [], _ => true
  | _ :: _, [] => false
  | left :: lefts, right :: rights => left < right || (left = right && unitsBefore lefts rights)

def insertSortedText (text : String) : List String → List String
  | [] => [text]
  | first :: rest =>
      if unitsBefore (utf16Units text) (utf16Units first) then text :: first :: rest
      else first :: insertSortedText text rest

/-- `[...texts].sort()` -/
def sortTexts (texts : List String) : List String := texts.foldr insertSortedText []

def autoGroupName (agentTypes : List String) : String :=
  let digest := Hash.sha1Hex (",".intercalate (sortTexts agentTypes))
  agentEngines ++ ":" ++ String.ofList (digest.toList.take 10)

/-! ### The runner -/

structure WorkerRunner where
  workerId : String
  agentTypes : List String
  groupName : String
  heartbeatInterval : Int := 5
  heartbeatLeaseTtlSeconds : Nat := 15
  lockToken : Option String := none
  registry : WorkerRegistry := {}
  deniedAgentTypes : List String := []
  fetchCount : Nat := 10
  primaryCursor : Nat := 0
  reclaimCountdown : Int := 0
deriving DecidableEq, Repr

namespace WorkerRunner

/-- The constructor: without a group name the capabilities choose it. -/
def make (workerId : String) (agentTypes : List String) (groupName : Option String)
    (registry : WorkerRegistry) : WorkerRunner :=
  { workerId := workerId
    agentTypes := agentTypes
    groupName := (truthyText groupName).getD (autoGroupName agentTypes)
    registry := registry }

def onRegistry {α : Type} (task : Proc WorkerRegistry α) : Proc WorkerRunner α :=
  Task.focus WorkerRunner.registry (fun runner registry => { runner with registry := registry }) task

def minRenewalsPerLease : Int := 3

def heartbeatConfigError (message : String) : JsError := ⟨"HeartbeatConfigError", message⟩

def assertHeartbeatTiming : Proc WorkerRunner PUnit := do
  let runner ← get
  let interval := runner.heartbeatInterval
  let ttl : Int := runner.heartbeatLeaseTtlSeconds
  if interval ≤ 0 then
    throw (heartbeatConfigError ("Heartbeat interval must be a positive number of seconds, got " ++
      toString interval))
  if ttl ≤ 0 then
    throw (heartbeatConfigError ("Heartbeat lease TTL must be a positive number of seconds, got " ++
      toString ttl))
  if interval * minRenewalsPerLease > ttl then
    -- the source goes on to name the bound, a fraction of the lease
    throw (heartbeatConfigError ("Heartbeat interval " ++ toString interval ++
      "s is too long for a " ++ toString ttl ++ "s lease: at least " ++
      toString minRenewalsPerLease ++ " renewals must fit inside one lease"))

def createGroup {σ : Type} (streamName : Key) (groupName : String) : Proc σ PUnit :=
  Task.failSoft do
    let _ ← redis (.xgroupCreate streamName groupName)

def setupStreams {σ : Type} (agentTypes : List String) (groupName : String) : Proc σ PUnit :=
  Task.forEach agentTypes fun agentType => createGroup (.ctrlStream agentType) groupName

def setupControlStreams {σ : Type} (workerId groupName : String) : Proc σ PUnit :=
  createGroup (.workerCtrlStream workerId) groupName

inductive RenewOutcome where
  | renewed
  | fenced
  | failed
deriving DecidableEq, Repr

def renewLease : Proc WorkerRunner RenewOutcome := do
  let runner ← get
  let renewed ← tryCatch
    (some <$> onRegistry (WorkerRegistry.heartbeatWorker runner.workerId
      runner.heartbeatLeaseTtlSeconds))
    fun _ => pure none
  match renewed with
  | none => pure .failed
  | some false =>
      ofProcess runner.workerId .fence
      pure .fenced
  | some true => pure .renewed

/-- The lifecycle of the admin state, active where none is set. -/
def lifecycleOf (state : List (String × Value)) : String :=
  let lifecycle := ((state.lookup "lifecycle").map Value.asText).getD ""
  if lifecycle = "" then "active" else lifecycle

def startHeartbeat : Proc WorkerRunner PUnit := do
  let runner ← get
  let adminState ← getWorkerAdminState runner.workerId
  let startupLifecycle := lifecycleOf adminState
  if startupLifecycle = "active" then
    registerWorkerMembership runner.workerId runner.agentTypes
  let outcome ← renewLease
  if outcome ≠ .fenced ∧ startupLifecycle ≠ "active" then
    ofProcess runner.workerId (.setLifecycle startupLifecycle)

def initializeRunner : Proc WorkerRunner PUnit := do
  assertHeartbeatTiming
  let runner ← get
  let token ← onRegistry (WorkerRegistry.claimWorkerId runner.workerId 60)
  modify fun runner => { runner with lockToken := some token }
  setupStreams runner.agentTypes runner.groupName
  setupControlStreams runner.workerId runner.groupName
  startHeartbeat

/-- Give the worker id up, by its token if the runner has one. -/
def releaseWorkerId : Proc WorkerRunner Bool := do
  let runner ← get
  match truthyText runner.lockToken with
  | some token =>
      let released ← tryCatch
        (onRegistry (WorkerRegistry.releaseWorkerId runner.workerId (some token)))
        fun _ => pure false
      modify fun runner => { runner with lockToken := none }
      pure released
  | none => onRegistry (WorkerRegistry.markWorkerInactive runner.workerId none)

def release : Proc WorkerRunner PUnit := do
  let runner ← get
  let releasedWorkerId ← releaseWorkerId
  if releasedWorkerId then unregisterWorkerMembership runner.workerId

structure StartOptions where
  handleSignals : Bool := false
  initializes : Bool := true

/-- `consume` is the loop between the start and whatever stops it. -/
def start (options : StartOptions) (consume : Proc WorkerRunner PUnit) :
    Proc WorkerRunner PUnit :=
  Task.withFinally
    (do
      if options.initializes then initializeRunner
      consume)
    (if options.handleSignals then pure ⟨⟩ else release)

end WorkerRunner

example : autoGroupName ["a"] = "byai_gateway:consumer_group:agent_engines:86f7e437fa" := by
  decide +kernel

end ByFramework
