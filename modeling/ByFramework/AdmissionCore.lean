import ByFramework.RevealedWaits

/-!
What a call of the availability router finds, one read after the other, and what admission control
promises of it.
-/

namespace ByFramework

open Async

/-- What the control plane and the registry hold at one instant. -/
structure ControlState where
  held : Key → Option Value
  members : String → List String

namespace ControlState

variable (state : ControlState)

def fields (key : Key) : JsonObject := foundFields (state.held key)

def circuitOpen (agentType : String) : Bool :=
  upper (textField (state.fields (.controlPlaneAgentCircuit agentType)) ["state"]) = "OPEN"

def quotaSpent (userCode : String) : Bool :=
  userCode ≠ "" &&
    (state.fields (.controlPlaneUserQuota userCode)).lookup "available" = some (.bool false)

def fallback (agentType : String) : String :=
  fallbackType (state.fields (.controlPlaneAgentFallback agentType))

def online (workerId : String) : Bool := showsOnline (state.held (.workerOnlineLease workerId))

end ControlState

def DeliveryIntent.patience (intent : DeliveryIntent) : Int := max 0 (intent.timeoutMs.getD 30000)

/-- What each command of a call finds, and the clock at each of its readings. The first reading
sets the deadline, then every poll reads the clock before it looks and again before it sleeps. -/
structure RouteHistory (intent : DeliveryIntent) where
  state : Nat → ControlState
  clock : Nat → Int
  steady : ∀ reading, clock reading ≤ clock (reading + 1)
  sleeps : ∀ poll, clock (2 * poll + 2) < clock 0 + intent.patience →
    clock (2 * poll + 2) < clock (2 * poll + 3)

structure RouteRecord where
  commands : Nat := 0
  readings : Nat := 0
  appended : List (Key × Value) := []

namespace RouteRecord

/-- After `count` commands that only read. -/
def skip (record : RouteRecord) (count : Nat) : RouteRecord :=
  { record with commands := record.commands + count }

def append (record : RouteRecord) (stream : Key) (value : Value) : RouteRecord :=
  { record with
    commands := record.commands + 1
    appended := record.appended ++ [(stream, value)] }

/-- The entries appended to the stream of pending deliveries. -/
def pending (record : RouteRecord) : List (Key × Value) :=
  record.appended.filter fun entry => entry.1 = .controlPlaneDeliveryPendingStream

end RouteRecord

section Loop

variable {σ : Type}

/-- The polling loop; `none` when `polls` rounds do not end it. -/
def pollWakeup (intent : DeliveryIntent) (deadline : Int) :
    Nat → Proc σ (Option AvailabilityResult)
  | 0 => pure none
  | polls + 1 => do
      if (← dateNow) < deadline then
        let online ← hasOnlineAgentType intent.targetAgentType
        if !online.isEmpty then
          pure (some
            { status := .waitAndDeliver
              streamName := some (.ctrlStream intent.targetAgentType) })
        else
          let _ ← dateNow
          pollWakeup intent deadline polls
      else pure (some (wakeupTimedOut intent))

end Loop

namespace RouteHistory

variable {intent : DeliveryIntent} (history : RouteHistory intent)

def answer (record : RouteRecord) : (op : Op) → op.Reply × RouteRecord
  | .redis (.get key) => (.ok ((history.state record.commands).held key), record.skip 1)
  | .redis (.smembers (.agentTypeMembers agentType)) =>
      (.ok ((history.state record.commands).members agentType), record.skip 1)
  | .redis (.xadd stream value) => (.ok record.appended.length, record.append stream value)
  | .now => (history.clock record.readings, { record with readings := record.readings + 1 })
  | op => ((redisAnswer Redis.Store.empty op).1, record)

def ran {α : Type} (task : Proc Unit α) (record : RouteRecord) :
    (Except JsError α × Unit) × RouteRecord :=
  (Task.start task ()).run history.answer record

def onlineFrom (instant : Nat) : List String → List String
  | [] => []
  | workerId :: rest =>
      if (history.state instant).online workerId then workerId :: onlineFrom (instant + 1) rest
      else onlineFrom (instant + 1) rest

/-- The workers that a look at an agent type finds online. -/
def found (instant : Nat) (agentType : String) : List String :=
  history.onlineFrom (instant + 1) ((history.state instant).members agentType)

def looks (instant : Nat) (agentType : String) : Nat :=
  1 + ((history.state instant).members agentType).length

/-! ### What admission control promises -/

def FoundOnline (record : RouteRecord) (agentType : String) : Prop :=
  ∃ first second workerId, first < second ∧ second < record.commands ∧
    workerId ∈ (history.state first).members agentType ∧
    (history.state second).online workerId = true

/-- What a call returns passes every gate: the circuit of the intent's own target as it was read,
that of any other agent type as it is in the end. -/
structure Admitted (result : AvailabilityResult) (record : RouteRecord) : Prop where
  circuit : ∀ agentType, result.streamName = some (.ctrlStream agentType) →
    (history.state (if agentType = intent.targetAgentType then 0
      else record.commands - 1)).circuitOpen agentType = false
  worker : ∀ agentType, result.streamName = some (.ctrlStream agentType) →
    intent.policy = .sendAnyway ∧ agentType = intent.targetAgentType ∨
      history.FoundOnline record agentType
  quota : result.status ≠ .reject → (history.state 1).quotaSpent intent.userCode = false
  queued : record.pending = if result.status = .queuePending then
    [(.controlPlaneDeliveryPendingStream,
      .pendingDelivery (.ctrlStream intent.targetAgentType) intent)] else []

def LoopEnds : Prop :=
  ∀ record : RouteRecord, record.readings = 1 → ∃ result later,
    history.ran (pollWakeup intent (history.clock 0 + intent.patience)
      (intent.patience.toNat + 1)) record = ((.ok (some result), ()), later) ∧
    (history.ran (awaitWakeup intent (history.clock 0 + intent.patience)
      intent.patience.toNat) record).1 = (.ok result, ())

def Admits : Prop :=
  (∃ result record, history.ran (prepareDelivery intent) {} = ((.ok result, ()), record) ∧
    history.Admitted result record) ∧ history.LoopEnds

/-! ### When the fallback is used -/

def targetInstant (_ : RouteHistory intent) : Nat := if intent.userCode = "" then 1 else 2

def fallbackInstant : Nat :=
  history.targetInstant + history.looks history.targetInstant intent.targetAgentType

def selected : String := (history.state history.fallbackInstant).fallback intent.targetAgentType

def lastInstant : Nat :=
  history.fallbackInstant + history.looks (history.fallbackInstant + 1) history.selected

/-- The target passes its gates and has no worker online, and its fallback has one. -/
structure FallsBack : Prop where
  supported : intent.policy.isSupported = true
  waits : intent.policy ≠ .sendAnyway
  circuit : (history.state 0).circuitOpen intent.targetAgentType = false
  quota : (history.state 1).quotaSpent intent.userCode = false
  offline : history.found history.targetInstant intent.targetAgentType = []
  named : history.selected ≠ ""
  reachable : history.found (history.fallbackInstant + 1) history.selected ≠ []

/-- A fallback that is used is the target itself, or has its circuit closed. -/
def FallbackClosed : Prop :=
  history.FallsBack → history.selected ≠ intent.targetAgentType →
    (history.state history.lastInstant).circuitOpen history.selected = false

end RouteHistory

end ByFramework
