import ByFramework.LifecycleCore

/-!
The heartbeat of a runner: its health gate, the cycle it goes through at each tick, and what an
operator does to a worker's membership meanwhile.
-/

namespace ByFramework

open Async

def loopLagUnhealthyMs : Int := 5000

def degradedRecoveryChecks : Nat := 3

def degradedMaxMs : Int := 120000

def consumerHealthTimeoutMs : Int := 30000

/-- The renewal is fresh (within 0.8 of the lease), the event loop is not starved, and the
consumer moves or is full. -/
def HealthSignals.isHealthy (signals : HealthSignals) (now : Int) : Bool :=
  if signals.lastRenewOkAt ≠ 0 ∧
      (now - signals.lastRenewOkAt) * 10 > (signals.leaseTtlSeconds * 1000 : Int) * 8 then false
  else if signals.peakLoopLagMs > loopLagUnhealthyMs then false
  else if signals.lastConsumerTick = 0 then true
  else if now - signals.lastConsumerTick < consumerHealthTimeoutMs then true
  else decide (signals.maxConcurrency ≤ signals.inFlight)

structure HealthRecord where
  degradedSince : Int := 0
  healthyStreak : Nat := 0
deriving DecidableEq, Repr

structure HealthVerdict where
  keepsRenewing : Bool
  healthState : String
  record : HealthRecord

/-- Fold the health signals into a state; only `fatal` stops the heartbeat. -/
def evaluateHealth (now : Int) (signals : HealthSignals) (healthState : String)
    (record : HealthRecord) : HealthVerdict :=
  if healthState = "fatal" then ⟨false, healthState, record⟩
  else if signals.isHealthy now then
    if healthState = "degraded" then
      let healthyStreak := record.healthyStreak + 1
      if degradedRecoveryChecks ≤ healthyStreak then ⟨true, "normal", ⟨0, 0⟩⟩
      else ⟨true, healthState, { record with healthyStreak := healthyStreak }⟩
    else ⟨true, healthState, record⟩
  else if healthState = "normal" then ⟨true, "degraded", ⟨now, 0⟩⟩
  else if degradedMaxMs ≤ now - record.degradedSince then
    ⟨false, "fatal", { record with healthyStreak := 0 }⟩
  else ⟨true, healthState, { record with healthyStreak := 0 }⟩

theorem evaluateHealth_fatal_iff {now : Int} {signals : HealthSignals} {healthState : String}
    {record : HealthRecord} :
    (evaluateHealth now signals healthState record).healthState = "fatal" ↔
      (evaluateHealth now signals healthState record).keepsRenewing = false := by
  unfold evaluateHealth
  split
  · rename_i fatal
    simp [fatal]
  · rename_i alive
    split
    · split
      · dsimp only
        split
        · simp
        · simpa using alive
      · simpa using alive
    · split
      · simp
      · split
        · simp
        · simpa using alive

/-! ### The cycle -/

namespace WorkerRunner

/-- Take over the lifecycle that an operator set, re-join where it is active, and read the
denylist again. -/
def syncAdminState : Proc WorkerRunner PUnit := do
  let runner ← get
  let state ← getWorkerAdminState runner.workerId
  let currentLifecycle := lifecycleOf state
  ofProcess runner.workerId (.setLifecycle currentLifecycle)
  if currentLifecycle = "active" then
    registerWorkerMembership runner.workerId runner.agentTypes
  let denied ← Task.mapEach runner.agentTypes fun agentType => do
    let denied ← isWorkerDeniedForType agentType runner.workerId
    pure (if denied then [agentType] else [])
  modify fun runner => { runner with deniedAgentTypes := denied.flatten }

/-- One heartbeat cycle: health gate, renewal, then the admin state. `signals` is what the runner
has measured when the cycle begins. -/
def tick (signals : HealthSignals) : Proc WorkerRunner PUnit :=
  Task.failSoft do
    let runner ← get
    let now ← dateNow
    let keepsRenewing : Bool ← ofProcess runner.workerId (.evaluateHealth now signals)
    if !keepsRenewing then pure ⟨⟩
    else
      let outcome ← renewLease
      if outcome ≠ .renewed then pure ⟨⟩ else syncAdminState

/-- The one renewal that soon follows a failed one. -/
def retryRenewal : Proc WorkerRunner PUnit := do
  let _ ← renewLease

end WorkerRunner

section

variable {σ : Type}

def adminHeader : Proc σ MessageHeader := do
  let traceId ← plainId
  let messageId ← plainId
  pure { messageId := messageId, sessionId := "admin", traceId := traceId }

def sendToWorker (workerId : String) (command : GatewayCommand) : Proc σ PUnit := do
  let _ ← redis (.xadd (.workerCtrlStream workerId) (.command command))

/-- Hide a worker from routing at once, and tell it to pause. -/
def suspendWorker (workerId reason : String) : Proc σ PUnit := do
  setWorkerAdminState workerId "suspended" reason
  removeWorkerFromTypeMembers workerId
  let header ← adminHeader
  sendToWorker workerId (.suspendWorker header reason)

def resumeWorker (workerId : String) : Proc σ PUnit := do
  setWorkerAdminState workerId "active" ""
  restoreWorkerToTypeMembers workerId
  let header ← adminHeader
  sendToWorker workerId (.resumeWorker header)

def evictWorker (workerId : String) (force : Bool) (reason : String) : Proc σ PUnit := do
  setWorkerAdminState workerId "evicted" reason
  removeWorkerFromTypeMembers workerId
  let header ← adminHeader
  sendToWorker workerId (.evictWorker header reason force)

end

end ByFramework
