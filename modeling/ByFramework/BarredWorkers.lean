import ByFramework.Barring
import ByFramework.WaitPruning

/-! Runs of workers, operators and routing around a barred worker. -/

namespace ByFramework

open Async

section

variable {σ : Type} {inv : σ → Prop}

theorem unstaffing_of_reading {α : Type} {task : Proc σ α} (uses : task.Uses reading inv) :
    task.Uses unstaffing inv := by
  refine uses_of_reading uses fun op reads => ?_
  unfold Op.isReading at reads
  split at reads <;> first | rfl | cases reads

theorem plainId_unstaffing : (plainId : Proc σ String).Uses unstaffing inv :=
  Task.uses_bind (Task.uses_await rfl) fun _ => Task.uses_pure _

theorem heartbeatWorker_unstaffing (workerId : String) (leaseTtlSeconds : Nat) :
    (WorkerRegistry.heartbeatWorker workerId leaseTtlSeconds).Uses unstaffing fun _ => True := by
  refine Task.uses_bind (Task.uses_await rfl) fun now => ?_
  refine Task.uses_bind Task.uses_get fun registry => uses_redis_bind rfl fun current _ => ?_
  have ends (written : Bool) : (if (!written) = true then pure false
      else do
        let _ ← redis (.sadd .knownWorkers workerId)
        pure true : Proc WorkerRegistry Bool).Uses unstaffing fun _ => True := by
    split
    · exact Task.uses_pure _
    · exact uses_redis_bind rfl fun _ _ => Task.uses_pure _
  dsimp only
  split
  · split
    · exact Task.uses_bind (uses_redis rfl) ends
    · split
      · exact ends false
      · exact Task.uses_bind (uses_redis rfl) ends
  · split
    · exact ends false
    · exact Task.uses_bind (uses_redis rfl) ends

theorem claimWorkerId_unstaffing (workerId : String) (ttlSeconds : Nat) :
    (WorkerRegistry.claimWorkerId workerId ttlSeconds).Uses unstaffing fun _ => True := by
  refine Task.uses_bind Task.uses_get fun registry => ?_
  refine Task.uses_bind plainId_unstaffing fun token => Task.uses_bind (uses_redis rfl) fun ok => ?_
  dsimp only
  split
  · exact Task.uses_throw_bind _ _
  · exact Task.uses_bind (Task.uses_modify fun _ _ => trivial)
      fun _ => uses_redis_bind rfl fun _ _ => Task.uses_pure _

theorem releaseLease_unstaffing (workerId : String) (token : Option String) :
    (WorkerRegistry.releaseWorkerId workerId token).Uses unstaffing fun _ => True := by
  refine Task.uses_bind Task.uses_get fun registry => ?_
  dsimp only
  split
  · exact Task.uses_pure _
  · refine uses_redis_bind rfl fun current _ => ?_
    split
    · exact Task.uses_pure _
    · exact uses_redis_bind rfl fun _ _ =>
        Task.uses_bind (Task.uses_modify fun _ _ => trivial) fun _ => Task.uses_pure _

theorem markWorkerInactive_unstaffing (workerId : String) (token : Option String) :
    (WorkerRegistry.markWorkerInactive workerId token).Uses unstaffing fun _ => True := by
  refine Task.uses_bind Task.uses_get fun registry => uses_redis_bind rfl fun current _ => ?_
  split
  · exact Task.uses_pure _
  · exact uses_redis_bind rfl fun _ _ => Task.uses_pure _

theorem leaveTypes_unstaffing (workerId : String) (agentTypes : List String) :
    (Task.forEach agentTypes fun agentType => do
      let _ ← redis (.srem (.agentTypeMembers agentType) workerId) : Proc σ PUnit).Uses
      unstaffing inv :=
  Task.uses_forEach _ fun _ _ => uses_redis_bind rfl fun _ _ => Task.uses_pure _

theorem unregisterWorkerMembership_unstaffing (workerId : String) :
    (unregisterWorkerMembership workerId : Proc σ PUnit).Uses unstaffing inv :=
  uses_redis_bind rfl fun _ _ => uses_redis_bind rfl fun _ _ => uses_redis_bind rfl fun _ _ =>
    leaveTypes_unstaffing workerId _

theorem removeWorkerFromTypeMembers_unstaffing (workerId : String) :
    (removeWorkerFromTypeMembers workerId : Proc σ PUnit).Uses unstaffing inv :=
  uses_redis_bind rfl fun _ _ => leaveTypes_unstaffing workerId _

theorem adminHeader_unstaffing : (adminHeader : Proc σ MessageHeader).Uses unstaffing inv :=
  Task.uses_bind plainId_unstaffing fun _ => Task.uses_bind plainId_unstaffing fun _ =>
    Task.uses_pure _

theorem sendToWorker_unstaffing (workerId : String) (command : GatewayCommand) :
    (sendToWorker workerId command : Proc σ PUnit).Uses unstaffing inv :=
  uses_redis_bind rfl fun _ _ => Task.uses_pure _

theorem xack_unstaffing (streamName : Key) (groupName : String) (msgId : Nat) :
    (xack streamName groupName msgId : Proc σ PUnit).Uses unstaffing inv :=
  uses_redis_bind rfl fun _ _ => Task.uses_pure _

theorem handleCancelTask_unstaffing (workerId : String) (command : CancelTaskCommand) :
    (handleCancelTask workerId command : Proc σ PUnit).Uses unstaffing inv := by
  have named : (cancelledExecution workerId command : Proc σ _).Uses unstaffing inv := by
    unfold cancelledExecution
    split
    · exact Task.uses_bind (Task.uses_await rfl) fun _ => Task.uses_pure _
    · exact Task.uses_pure _
  refine Task.uses_bind named fun found => ?_
  split
  · exact Task.uses_pure _
  · rename_i executionId
    refine Task.uses_bind (Task.uses_await rfl) fun running => Task.uses_bind ?_ fun _ => ?_
    · refine Task.uses_bind (unstaffing_of_reading (getExecution_reading _ _)) fun current => ?_
      split
      · exact Task.uses_pure _
      · refine Task.uses_bind (Task.uses_await rfl) fun now => uses_pipeline ?_ rfl
        intro command listed
        simp only [List.mem_cons, List.not_mem_nil, or_false] at listed
        rcases listed with rfl | rfl <;> rfl
    · split
      · exact Task.uses_pure _
      · exact Task.uses_await rfl

theorem runControlOnce_unstaffing (workerId groupName : String) :
    (runControlOnce workerId groupName : Proc σ PUnit).Uses unstaffing inv := by
  refine uses_redis_bind rfl fun entries _ => Task.uses_forEach _ fun entry _ => ?_
  unfold runControlEntry
  dsimp only
  split
  · exact xack_unstaffing _ _ _
  · rename_i message parsed
    refine Task.uses_tryCatch (Task.uses_bind (Task.uses_await rfl) fun _ => ?_)
      fun _ => xack_unstaffing _ _ _
    refine Task.uses_withFinally ?_ (xack_unstaffing _ _ _)
    unfold obeyControlMessage
    split
    · exact Task.uses_await rfl
    · exact Task.uses_await rfl
    · exact Task.uses_await rfl
    · exact handleCancelTask_unstaffing _ _
    · exact Task.uses_pure _

end

namespace WorkerRunner

theorem onRegistry_unstaffing {α : Type} {task : Proc WorkerRegistry α}
    (uses : task.Uses unstaffing fun _ => True) :
    (onRegistry task).Uses unstaffing fun _ => True :=
  Task.uses_focus uses (fun _ _ => trivial) fun _ _ _ _ => trivial

theorem createGroup_unstaffing {σ : Type} {inv : σ → Prop} (streamName : Key)
    (groupName : String) : (createGroup streamName groupName : Proc σ PUnit).Uses unstaffing inv :=
  Task.uses_failSoft (uses_redis_bind rfl fun _ _ => Task.uses_pure _)

theorem renewLease_unstaffing : renewLease.Uses unstaffing fun _ => True := by
  refine Task.uses_bind Task.uses_get fun runner => ?_
  refine Task.uses_bind (Task.uses_tryCatch (Task.uses_bind (onRegistry_unstaffing
    (heartbeatWorker_unstaffing _ _)) fun _ => Task.uses_pure _) fun _ => Task.uses_pure _)
    fun renewed => ?_
  split
  · exact Task.uses_pure _
  · exact Task.uses_bind (Task.uses_await rfl) fun _ => Task.uses_pure _
  · exact Task.uses_pure _

theorem release_unstaffing : release.Uses unstaffing fun _ => True := by
  have given : releaseWorkerId.Uses unstaffing fun _ => True := by
    refine Task.uses_bind Task.uses_get fun runner => ?_
    split
    · refine Task.uses_bind (Task.uses_tryCatch (onRegistry_unstaffing
        (releaseLease_unstaffing _ _)) fun _ => Task.uses_pure _) fun released => ?_
      exact Task.uses_bind (Task.uses_modify fun _ _ => trivial) fun _ => Task.uses_pure _
    · exact onRegistry_unstaffing (markWorkerInactive_unstaffing _ _)
  refine Task.uses_bind Task.uses_get fun runner => Task.uses_bind given fun released => ?_
  split
  · exact unregisterWorkerMembership_unstaffing _
  · exact Task.uses_pure _

theorem readStream_unstaffing (streamName : Key) :
    (readStream streamName).Uses unstaffing fun _ => True := by
  refine Task.uses_bind Task.uses_get fun runner => ?_
  exact Task.uses_bind (uses_redis rfl) fun _ => Task.uses_pure _

theorem reclaimStream_unstaffing (agentType : String) :
    (reclaimStream agentType).Uses unstaffing fun _ => True := by
  have claimable (workerId : String) (pending : List Redis.PendingSummary) :
      (claimableEntries workerId pending).Uses unstaffing fun _ => True := by
    induction pending with
    | nil => exact Task.uses_pure _
    | cons waiting rest ih =>
        unfold claimableEntries
        split
        · exact ih
        · exact Task.uses_bind (unstaffing_of_reading (isWorkerOnline_reading _)) fun _ =>
            Task.uses_bind ih fun _ => Task.uses_pure _
  refine Task.uses_bind Task.uses_get fun runner => ?_
  refine Task.uses_bind (uses_redis rfl) fun pending => ?_
  refine Task.uses_bind (claimable _ _) fun entries => ?_
  split
  · exact Task.uses_pure _
  · exact Task.uses_bind (uses_redis rfl) fun _ => Task.uses_pure _

theorem poll_unstaffing : poll.Uses unstaffing fun _ => True := by
  refine Task.uses_bind Task.uses_get fun runner => ?_
  have reads : (readStreams runner.activeAgentTypes).Uses unstaffing fun _ => True := by
    refine Task.uses_bind (Task.uses_mapEach _ fun agentType _ =>
      Task.uses_attempt (readStream_unstaffing _)) fun outcomes => ?_
    exact Task.uses_bind (Task.uses_mapEach _ fun _ _ => uses_orThrow _) fun _ => Task.uses_pure _
  have primary : (readPrimary runner.activeAgentTypes).Uses unstaffing fun _ => True := by
    refine Task.uses_bind Task.uses_get fun runner => ?_
    refine Task.uses_bind (Task.uses_modify fun _ _ => trivial) fun _ => ?_
    split
    · exact Task.uses_pure _
    · exact readStream_unstaffing _
  have reclaims : reclaimOrphanedMessages.Uses unstaffing fun _ => True := by
    refine Task.uses_bind Task.uses_get fun runner => ?_
    exact Task.uses_bind (Task.uses_mapEach _ fun agentType _ =>
      Task.uses_tryCatch (reclaimStream_unstaffing _) fun _ => Task.uses_pure _)
      fun _ => Task.uses_pure _
  have due : reclaimDue.Uses unstaffing fun _ => True :=
    Task.uses_bind Task.uses_get fun _ => Task.uses_bind (Task.uses_modify fun _ _ => trivial)
      fun _ => Task.uses_pure _
  dsimp only
  split
  · exact Task.uses_pure _
  · refine Task.uses_bind reads fun first => ?_
    split
    · exact Task.uses_pure _
    · refine Task.uses_bind due fun isDue => Task.uses_bind ?_ fun reclaimed => ?_
      · split
        · exact reclaims
        · exact Task.uses_pure _
      · split
        · exact Task.uses_pure _
        · exact primary

theorem consume_unstaffing (rounds : Nat) : (consume rounds).Uses unstaffing fun _ => True := by
  induction rounds with
  | zero => exact Task.uses_pure _
  | succ rounds ih =>
      have round : consumeRound.Uses unstaffing fun _ => True :=
        Task.uses_bind poll_unstaffing fun _ => Task.uses_bind Task.uses_get fun _ =>
          Task.uses_forEach _ fun _ _ => Task.uses_await rfl
      unfold consume
      refine Task.uses_bind Task.uses_get fun runner => Task.uses_bind (Task.uses_await rfl)
        fun state => ?_
      split
      · exact Task.uses_pure _
      · split
        · exact ih
        · exact Task.uses_bind (Task.uses_failSoft round) fun _ => ih

end WorkerRunner

/-! ### What looks first -/

section

variable {σ : Type} {inv : σ → Prop} {workerId : String} {bar : Bar}

theorem join_keepsOut (agentType : String) {other : String}
    (apart : bar = .lifecycle → other ≠ workerId) :
    (do
      let denied ← isWorkerDeniedForType agentType other
      if !denied then
        let _ ← redis (.sadd (.agentTypeMembers agentType) other) : Proc σ PUnit).Uses
      (keepsOut workerId bar) inv := by
  refine uses_redis_bind (fun command same => ?_) fun listed finds => ?_
  · cases same
    exact readmits_of_spare rfl
  · split
    · rename_i admitted
      refine uses_redis_bind (fun command same => ?_) fun _ _ => Task.uses_pure _
      cases same
      cases bar with
      | lifecycle =>
          have differ := apart rfl
          simp [Bar.readmits, Bar.lifts, Redis.Command.keeps, Redis.Command.rewrites, differ]
      | denied barred =>
          simp only [Bar.readmits, Bar.lifts, Redis.Command.keeps, Redis.Command.takes, Bar.covers,
            Bool.not_true, Bool.or_self, Bool.false_or, Bool.and_eq_false_iff,
            decide_eq_false_iff_not]
          by_contra joins
          rw [not_or, not_not, not_not] at joins
          obtain ⟨rfl, rfl⟩ := joins
          rw [finds barred rfl rfl rfl] at admitted
          cases admitted
    · exact Task.uses_pure _

theorem spare_bind {command : RedisCommand} {next : command.Reply → Proc σ PUnit}
    (spare : spareCommand command = true)
    (rest : ∀ value, bar.Finds workerId command value →
      (next value).Uses (keepsOut workerId bar) inv) :
    (redis command >>= next).Uses (keepsOut workerId bar) inv := by
  refine uses_redis_bind (fun same isCommand => ?_) rest
  cases isCommand
  exact readmits_of_spare spare

theorem registerWorkerMembership_keepsOut {other : String} (agentTypes : List String)
    (apart : bar = .lifecycle → other ≠ workerId) :
    (registerWorkerMembership other agentTypes : Proc σ PUnit).Uses (keepsOut workerId bar) inv :=
  spare_bind rfl fun _ _ => Task.uses_forEach _ fun agentType _ =>
    spare_bind rfl fun _ _ => join_keepsOut agentType apart

theorem restoreWorkerToTypeMembers_keepsOut {other : String}
    (apart : bar = .lifecycle → other ≠ workerId) :
    (restoreWorkerToTypeMembers other : Proc σ PUnit).Uses (keepsOut workerId bar) inv :=
  spare_bind rfl fun _ _ => Task.uses_forEach _ fun agentType _ => join_keepsOut agentType apart

theorem apart_of_active {other : String} {state : List (String × Value)}
    (finds : bar.Finds workerId (.hgetall (.workerAdminState other)) state)
    (active : WorkerRunner.lifecycleOf state = "active") : bar = .lifecycle → other ≠ workerId := by
  rintro isLifecycle rfl
  exact finds isLifecycle rfl active

theorem startHeartbeat_keepsOut :
    WorkerRunner.startHeartbeat.Uses (keepsOut workerId bar) fun _ => True := by
  refine Task.uses_bind Task.uses_get fun runner => spare_bind rfl fun adminState finds => ?_
  have beats : (do
      let outcome ← WorkerRunner.renewLease
      if outcome ≠ .fenced ∧ WorkerRunner.lifecycleOf adminState ≠ "active" then
        ofProcess runner.workerId (.setLifecycle (WorkerRunner.lifecycleOf adminState)) :
      Proc WorkerRunner PUnit).Uses (keepsOut workerId bar) fun _ => True := by
    refine keepsOut_of_unstaffing (Task.uses_bind WorkerRunner.renewLease_unstaffing
      fun outcome => ?_)
    split
    · exact Task.uses_await rfl
    · exact Task.uses_pure _
  dsimp only
  split
  · rename_i active
    exact Task.uses_bind (registerWorkerMembership_keepsOut _ (apart_of_active finds active))
      fun _ => beats
  · exact beats

theorem syncAdminState_keepsOut :
    WorkerRunner.syncAdminState.Uses (keepsOut workerId bar) fun _ => True := by
  refine Task.uses_bind Task.uses_get fun runner => spare_bind rfl fun state finds => ?_
  refine Task.uses_bind (keepsOut_of_unstaffing (Task.uses_await rfl)) fun _ => ?_
  have refresh : (do
      let denied ← Task.mapEach runner.agentTypes fun agentType => do
        let denied ← isWorkerDeniedForType agentType runner.workerId
        pure (if denied then [agentType] else [])
      modify fun runner => { runner with deniedAgentTypes := denied.flatten } :
      Proc WorkerRunner PUnit).Uses (keepsOut workerId bar) fun _ => True := by
    refine keepsOut_of_unstaffing (Task.uses_bind (Task.uses_mapEach _ fun agentType _ => ?_)
      fun _ => Task.uses_modify fun _ _ => trivial)
    exact Task.uses_bind (uses_redis rfl) fun _ => Task.uses_pure _
  split
  · rename_i active
    exact Task.uses_bind (registerWorkerMembership_keepsOut _ (apart_of_active finds active))
      fun _ => refresh
  · exact refresh

theorem tick_keepsOut (signals : HealthSignals) :
    (WorkerRunner.tick signals).Uses (keepsOut workerId bar) fun _ => True := by
  refine Task.uses_failSoft (Task.uses_bind Task.uses_get fun runner => ?_)
  refine Task.uses_bind (keepsOut_of_unstaffing (Task.uses_await rfl)) fun now => ?_
  refine Task.uses_bind (keepsOut_of_unstaffing (Task.uses_await rfl)) fun keepsRenewing => ?_
  split
  · exact Task.uses_pure _
  · refine Task.uses_bind (keepsOut_of_unstaffing WorkerRunner.renewLease_unstaffing)
      fun outcome => ?_
    split
    · exact Task.uses_pure _
    · exact syncAdminState_keepsOut

theorem start_keepsOut (options : WorkerRunner.StartOptions) (rounds : Nat) :
    (WorkerRunner.start options (WorkerRunner.runLoop rounds)).Uses (keepsOut workerId bar)
      fun _ => True := by
  have groups (agentTypes : List String) (groupName : String) :
      (WorkerRunner.setupStreams agentTypes groupName : Proc WorkerRunner PUnit).Uses unstaffing
        fun _ => True :=
    Task.uses_forEach _ fun _ _ => WorkerRunner.createGroup_unstaffing _ _
  have timing : WorkerRunner.assertHeartbeatTiming.Uses unstaffing fun _ => True := by
    refine Task.uses_bind Task.uses_get fun runner => ?_
    dsimp only
    split
    · exact Task.uses_throw_bind _ _
    · split
      · exact Task.uses_throw_bind _ _
      · split
        · exact Task.uses_throw _
        · exact Task.uses_pure _
  have initializes : WorkerRunner.initializeRunner.Uses (keepsOut workerId bar) fun _ => True := by
    refine Task.uses_bind (keepsOut_of_unstaffing timing) fun _ => ?_
    refine Task.uses_bind Task.uses_get fun runner => ?_
    refine Task.uses_bind (keepsOut_of_unstaffing (WorkerRunner.onRegistry_unstaffing
      (claimWorkerId_unstaffing _ _))) fun token => ?_
    refine Task.uses_bind (Task.uses_modify fun _ _ => trivial) fun _ => ?_
    refine Task.uses_bind (keepsOut_of_unstaffing (groups _ _)) fun _ => ?_
    exact Task.uses_bind (keepsOut_of_unstaffing (WorkerRunner.createGroup_unstaffing _ _))
      fun _ => startHeartbeat_keepsOut
  have loop : (WorkerRunner.runLoop rounds).Uses (keepsOut workerId bar) fun _ => True := by
    refine keepsOut_of_unstaffing (Task.uses_bind Task.uses_get fun runner => ?_)
    exact Task.uses_bind (Task.uses_await rfl) fun _ => WorkerRunner.consume_unstaffing rounds
  refine Task.uses_withFinally ?_ ?_
  · split
    · exact Task.uses_bind initializes fun _ => loop
    · exact loop
  · split
    · exact Task.uses_pure _
    · exact keepsOut_of_unstaffing WorkerRunner.release_unstaffing

theorem setWorkerAdminState_keepsOut {other lifecycle : String} (reason : String)
    (idle : bar = .lifecycle → other = workerId → lifecycle ≠ "" ∧ lifecycle ≠ "active") :
    (setWorkerAdminState other lifecycle reason : Proc σ PUnit).Uses (keepsOut workerId bar)
      inv := by
  refine Task.uses_bind (keepsOut_of_unstaffing (Task.uses_await rfl)) fun now => ?_
  refine uses_pipeline ?_ fun _ never => by cases never
  intro command listed same isCommand
  cases isCommand
  have kept (fields : List (String × Value))
      (plain : bar = .lifecycle → other = workerId → fields.any activates = false) :
      bar.readmits workerId (.hset (.workerAdminState other) fields) = false := by
    cases bar with
    | lifecycle =>
        by_cases same : other = workerId
        · simpa [Bar.readmits, Bar.lifts, Redis.Command.keeps, same] using plain rfl same
        · simp [Bar.readmits, Bar.lifts, Redis.Command.keeps, same]
    | denied agentType => rfl
  simp only [List.mem_cons, List.not_mem_nil, or_false] at listed
  rcases listed with rfl | rfl | rfl
  · refine kept _ fun isLifecycle same => ?_
    obtain ⟨filled, inactive⟩ := idle isLifecycle same
    simp [activates, Value.asText, filled, inactive]
  · exact kept _ fun _ _ => rfl
  · exact kept _ fun _ _ => rfl

end

/-- What runners do about their own workers, what operators do about any, and routing. -/
inductive RosterTask where
  | start (runner : WorkerRunner) (options : WorkerRunner.StartOptions) (rounds : Nat)
  | tick (runner : WorkerRunner) (signals : HealthSignals)
  | retry (runner : WorkerRunner)
  | control (runner : WorkerRunner)
  | suspend (workerId reason : String)
  | evict (workerId : String) (force : Bool) (reason : String)
  | resume (workerId : String)
  | clear (workerId : String)
  | deny (agentType workerId : String)
  | allow (agentType workerId : String)
  | route (agentType : String)
  | aside (program : Prog effects Unit)

namespace RosterTask

def program : RosterTask → Prog effects Unit
  | .start runner options rounds =>
      toEnd (WorkerRunner.start options (WorkerRunner.runLoop rounds)) runner
  | .tick runner signals => toEnd (WorkerRunner.tick signals) runner
  | .retry runner => toEnd WorkerRunner.retryRenewal runner
  | .control runner => toEnd (runControlOnce runner.workerId runner.groupName) ()
  | .suspend workerId reason => toEnd (suspendWorker workerId reason) ()
  | .evict workerId force reason => toEnd (evictWorker workerId force reason) ()
  | .resume workerId => toEnd (resumeWorker workerId) ()
  | .clear workerId => toEnd (clearWorkerAdminState workerId) ()
  | .deny agentType workerId => toEnd (denyWorkerForType agentType workerId) ()
  | .allow agentType workerId => toEnd (allowWorkerForType agentType workerId) ()
  | .route agentType => toEnd (hasOnlineAgentType agentType) ()
  | .aside program => program

/-- What may lift a bar: the operator's call for it, or a program that is not known to spare it. -/
def Lifts (workerId : String) (bar : Bar) : RosterTask → Prop
  | .resume other | .clear other => bar = .lifecycle ∧ other = workerId
  | .allow agentType other => bar = .denied agentType ∧ other = workerId
  | .aside program => ¬ program.Uses (keepsOut workerId bar)
  | _ => False

end RosterTask

section

variable {workerId : String} {bar : Bar}

theorem keepsOut_toEnd {σ α : Type} {task : Proc σ α} {memory : σ}
    (uses : task.Uses (keepsOut workerId bar) fun _ => True) :
    (toEnd task memory).Uses (keepsOut workerId bar) :=
  (uses memory trivial).bind fun _ _ => trivial

theorem RosterTask.program_keepsOut {task : RosterTask} (standing : ¬ task.Lifts workerId bar) :
    task.program.Uses (keepsOut workerId bar) := by
  have told (other : String) (command : MessageHeader → GatewayCommand) :
      (do
        let header ← adminHeader
        sendToWorker other (command header) : Proc Unit PUnit).Uses (keepsOut workerId bar)
        fun _ => True :=
    keepsOut_of_unstaffing (Task.uses_bind adminHeader_unstaffing fun _ =>
      sendToWorker_unstaffing _ _)
  have hides (other reason : String) {lifecycle : String} (command : MessageHeader → GatewayCommand)
      (idle : lifecycle ≠ "" ∧ lifecycle ≠ "active") : (do
        setWorkerAdminState other lifecycle reason
        removeWorkerFromTypeMembers other
        let header ← adminHeader
        sendToWorker other (command header) : Proc Unit PUnit).Uses (keepsOut workerId bar)
        fun _ => True := by
    refine Task.uses_bind (setWorkerAdminState_keepsOut reason fun _ _ => idle) fun _ => ?_
    exact Task.uses_bind (keepsOut_of_unstaffing (removeWorkerFromTypeMembers_unstaffing _))
      fun _ => told other command
  cases task with
  | start runner options rounds => exact keepsOut_toEnd (start_keepsOut options rounds)
  | tick runner signals => exact keepsOut_toEnd (tick_keepsOut signals)
  | retry runner =>
      exact keepsOut_toEnd (keepsOut_of_unstaffing (Task.uses_bind
        WorkerRunner.renewLease_unstaffing fun _ => Task.uses_pure _))
  | control runner =>
      exact keepsOut_toEnd (keepsOut_of_unstaffing (runControlOnce_unstaffing _ _))
  | suspend other reason =>
      exact keepsOut_toEnd (hides other reason (fun header => .suspendWorker header reason)
        (by decide))
  | evict other force reason =>
      exact keepsOut_toEnd (hides other reason (fun header => .evictWorker header reason force)
        (by decide))
  | resume other =>
      have apart : bar = .lifecycle → other ≠ workerId := fun isLifecycle same =>
        standing ⟨isLifecycle, same⟩
      refine keepsOut_toEnd (Task.uses_bind (setWorkerAdminState_keepsOut _ fun isLifecycle same =>
        absurd same (apart isLifecycle)) fun _ => ?_)
      exact Task.uses_bind (restoreWorkerToTypeMembers_keepsOut apart)
        fun _ => told other fun header => .resumeWorker header
  | clear other =>
      refine keepsOut_toEnd (uses_redis_bind (fun command same => ?_) fun _ _ => Task.uses_pure _)
      cases same
      cases bar with
      | lifecycle =>
          have differ : other ≠ workerId := fun same => standing ⟨rfl, same⟩
          simp [Bar.readmits, Bar.lifts, Bar.key, Redis.Command.keeps, Redis.Command.rewrites,
            differ]
      | denied agentType => rfl
  | deny agentType other =>
      refine keepsOut_toEnd (uses_pipeline ?_ fun _ never => by cases never)
      intro command listed same isCommand
      cases isCommand
      simp only [List.mem_cons, List.not_mem_nil, or_false] at listed
      rcases listed with rfl | rfl
      · cases bar <;> rfl
      · exact readmits_of_spare rfl
  | allow agentType other =>
      refine keepsOut_toEnd (uses_redis_bind (fun command same => ?_) fun _ _ => Task.uses_pure _)
      cases same
      cases bar with
      | lifecycle => rfl
      | denied barred =>
          have differ : ¬ (agentType = barred ∧ other = workerId) := by
            rintro ⟨rfl, rfl⟩
            exact standing ⟨rfl, rfl⟩
          simpa [Bar.readmits, Bar.lifts, Bar.key, Redis.Command.keeps, Redis.Command.takes]
            using differ
  | route agentType =>
      exact keepsOut_toEnd (keepsOut_of_unstaffing (unstaffing_of_reading
        (hasOnlineAgentType_reading _)))
  | aside program => exact not_not.mp standing

end

section

variable {ι : Type} [DecidableEq ι]

def rosterWorld (mayFail : RedisCommand → Prop) (tasks : ι → RosterTask) :
    World effects Fleet ι Unit :=
  programWorld mayFail fun index => (tasks index).program

variable {workerId : String} {bar : Bar} {mayFail : RedisCommand → Prop} {tasks : ι → RosterTask}

omit [DecidableEq ι] in
theorem barred_accord (standing : ∀ index, ¬ (tasks index).Lifts workerId bar) :
    Accord (rosterWorld mayFail tasks) (fun _ _ => True) (keepsOut workerId bar)
      fun fleet => Barred workerId bar fleet.store where
  serve := by
    intro fleet op reply after barred spared served
    have served : Fleet.serve mayFail fleet op reply after := served
    by_cases isCommand : ∃ command, op = .redis command
    · obtain ⟨command, rfl⟩ := isCommand
      have closed := spared command rfl
      refine ⟨?_, Fleet.serve_store (Barred workerId bar) served barred (barred.exec closed)⟩
      cases reply with
      | error message => trivial
      | ok value => exact barred.finds (congrArg Prod.fst (Fleet.serve_ok served))
    · refine ⟨?_, ?_⟩
      · cases op with
        | redis command => exact absurd ⟨command, rfl⟩ isCommand
        | _ => trivial
      · rw [Fleet.serve_other served (not_exists.mp isCommand)]
        exact barred
  start := by
    rintro config index program after barred - ⟨rfl, rfl⟩
    exact ⟨RosterTask.program_keepsOut (standing index), barred⟩
  stop := by
    rintro fleet index program after barred rfl
    exact barred
  lapse := by
    rintro fleet after barred (⟨now, later⟩ | restarted)
    · exact barred.advance now
    · exact barred

end

/-! ### The operator's calls -/

inductive BarringCall where
  | suspend (reason : String)
  | evict (force : Bool) (reason : String)
  | deny (agentType : String)

namespace BarringCall

def bar : BarringCall → Bar
  | .suspend _ | .evict _ _ => .lifecycle
  | .deny agentType => .denied agentType

def task (workerId : String) : BarringCall → Proc Unit PUnit
  | .suspend reason => suspendWorker workerId reason
  | .evict force reason => evictWorker workerId force reason
  | .deny agentType => denyWorkerForType agentType workerId

end BarringCall

/-- A worker that is a member of an agent type declares it. -/
def DeclaresAll (workerId : String) (store : RedisStore) : Prop :=
  ∀ agentType, workerId ∈ store.members (.agentTypeMembers agentType) →
    agentType ∈ store.members (.workerDeclaredAgentTypes workerId)

section

variable {workerId : String} {store : RedisStore}

theorem barred_served {bar : Bar} {before after : RedisStore} {op : Op} {reply : op.Reply}
    (barred : Barred workerId bar before) (spared : (keepsOut workerId bar).allowed op)
    (served : clockServe before op reply after) :
    (keepsOut workerId bar).expected op reply ∧ Barred workerId bar after := by
  cases op with
  | redis command =>
      have executed : before.exec command = (reply, after) := served
      have kept := barred.exec (spared command rfl)
      rw [executed] at kept
      refine ⟨?_, kept⟩
      cases reply with
      | error message => trivial
      | ok value => exact barred.finds (congrArg Prod.fst executed)
  | now =>
      obtain ⟨_, rfl⟩ := served
      exact ⟨trivial, barred⟩
  | _ =>
      cases served
      exact ⟨trivial, barred⟩

theorem leaveTypes_clock {agentTypes : List String} (holds : Bar.lifecycle.Holds workerId store)
    (lasting : store.expiresAt (.workerAdminState workerId) = none)
    (within : ∀ agentType, workerId ∈ store.members (.agentTypeMembers agentType) →
      agentType ∈ agentTypes) :
    (Task.forEach agentTypes fun agentType => do
      let _ ← redis (.srem (.agentTypeMembers agentType) workerId) : Proc Unit PUnit).wp
      (Setting.alone clockServe) (fun _ _ after => Barred workerId .lifecycle after) () store := by
  induction agentTypes generalizing store with
  | nil =>
      exact Task.wp_alone_pure ⟨holds, lasting, fun agentType _ inside =>
        absurd (within agentType inside) (by simp)⟩
  | cons agentType rest ih =>
      refine Task.wp_alone_bind (Task.wp_alone_bind (wp_redis_clock (Task.wp_alone_pure ?_)))
      refine ih holds lasting fun other inside => ?_
      have known : workerId ∈ store.members (.agentTypeMembers other) := by
        by_contra outside
        exact Redis.Store.not_mem_exec outside rfl inside
      rcases List.mem_cons.mp (within other known) with rfl | later
      · simp [Redis.Store.exec] at inside
      · exact later

theorem hide_bars {lifecycle reason : String} {command : MessageHeader → GatewayCommand}
    (idle : lifecycle ≠ "" ∧ lifecycle ≠ "active") (declares : DeclaresAll workerId store)
    (lasting : store.expiresAt (.workerAdminState workerId) = none) :
    (do
      setWorkerAdminState workerId lifecycle reason
      removeWorkerFromTypeMembers workerId
      let header ← adminHeader
      sendToWorker workerId (command header) : Proc Unit PUnit).wp (Setting.alone clockServe)
      (fun outcome _ after => outcome = .ok ⟨⟩ → Barred workerId .lifecycle after) () store := by
  have told {after : RedisStore} (barred : Barred workerId .lifecycle after) :
      (do
        let header ← adminHeader
        sendToWorker workerId (command header) : Proc Unit PUnit).wp (Setting.alone clockServe)
        (fun _ _ last => Barred workerId .lifecycle last) () after := by
    have spares : (do
        let header ← adminHeader
        sendToWorker workerId (command header) : Proc Unit PUnit).Uses
        (keepsOut workerId .lifecycle) fun _ => True :=
      keepsOut_of_unstaffing (Task.uses_bind adminHeader_unstaffing fun _ =>
        sendToWorker_unstaffing _ _)
    have kept : (do
        let header ← adminHeader
        sendToWorker workerId (command header) : Proc Unit PUnit).wp (Setting.alone clockServe)
        (fun _ _ last => True ∧ Barred workerId .lifecycle last) () after := by
      refine Task.wp_of_uses ?_ ?_ spares trivial barred
      · rintro before later held rfl -
        exact held
      · intro before op held _ spared
        exact ⟨trivial, fun reply after served _ => barred_served held spared served⟩
    exact Task.wp_mono kept fun _ _ _ _ held => held.2
  refine Task.wp_alone_bind (Task.wp_alone_bind (wp_dateNow_clock (wp_pipeline_clock ?_)))
  rintro (error | ⟨⟩)
  · rintro ⟨⟩
  refine Task.wp_alone_bind (Task.wp_alone_bind (wp_redis_clock ?_))
  refine Task.wp_mono (leaveTypes_clock ?_ lasting fun agentType inside => ?_) ?_
  · simp [Bar.Holds, Redis.Store.exec, Redis.upsertAll, Redis.lookup_upsert,
      WorkerRunner.lifecycleOf, Value.asText, idle.1, idle.2]
  · exact declares agentType inside
  · rintro (error | ⟨⟩) memory after - barred
    · rintro ⟨⟩
    · exact Task.wp_mono (told barred) fun _ _ _ _ held _ => held

theorem barred_of_ends {call : BarringCall} {after : RedisStore}
    (declares : DeclaresAll workerId store)
    (lasting : store.expiresAt (call.bar.key workerId) = none)
    (ends : Prog.Ends clockServe ((call.task workerId).start ()) store (.ok ⟨⟩, ()) after) :
    Barred workerId call.bar after := by
  have bars : (call.task workerId).wp (Setting.alone clockServe)
      (fun outcome _ after => outcome = .ok ⟨⟩ → Barred workerId call.bar after) () store := by
    cases call with
    | suspend reason => exact hide_bars (by decide) declares lasting
    | evict force reason => exact hide_bars (by decide) declares lasting
    | deny agentType =>
        refine wp_pipeline_clock fun _ _ => ⟨?_, ?_, ?_⟩
        · have inside := Redis.Store.mem_sadd store (.agentTypeDenied agentType) workerId
          exact Redis.Store.mem_exec inside rfl
        · have kept : (store.exec (.sadd (.agentTypeDenied agentType) workerId)).2.expiresAt
              (.agentTypeDenied agentType) = store.expiresAt (.agentTypeDenied agentType) := by
            simp only [Redis.Store.exec]
            split <;> rfl
          exact kept.trans lasting
        · intro other covered
          obtain rfl : agentType = other := of_decide_eq_true covered
          simp [Redis.Store.exec]
  exact Task.wp_ends ends bars rfl

end

/-- Once a worker was suspended, evicted or denied an agent type with nothing else going on, no
member set that this covers holds it and no look of routing finds it there, whatever ticks,
starts, renewals and operators' calls follow in whatever order, unless one of them lifts it. -/
theorem barred_worker_unrouted {ι : Type} [DecidableEq ι] {workerId : String}
    {call : BarringCall} {store : RedisStore} {mayFail : RedisCommand → Prop}
    {tasks : ι → RosterTask} {first last : Config effects Fleet ι Unit}
    {events : List (Event effects ι)} (declares : DeclaresAll workerId store)
    (lasting : store.expiresAt (call.bar.key workerId) = none)
    (ends : Prog.Ends clockServe ((call.task workerId).start ()) store (.ok ⟨⟩, ())
      first.state.store)
    (idle : ∀ index, first.task index = none)
    (standing : ∀ index, ¬ (tasks index).Lifts workerId call.bar)
    (runs : Runs (rosterWorld mayFail tasks) (fun _ _ => True) first events last) :
    ∀ agentType, call.bar.covers agentType = true →
      workerId ∉ last.state.store.members (.agentTypeMembers agentType) ∧
      ∀ index (found : List String), .issue index (.redis (.smembers (.agentTypeMembers agentType)))
        (.ok found) ∈ events → workerId ∉ found := by
  have keeps : KeepsTo (keepsOut workerId call.bar) first := by
    intro index program running
    rw [idle index] at running
    cases running
  obtain ⟨_, barred, exchanged⟩ := (barred_accord standing).runs keeps
    (barred_of_ends declares lasting ends) runs
  intro agentType covered
  refine ⟨barred.outside agentType covered, fun index found listed => ?_⟩
  exact (exchanged index _ _ listed).2 agentType covered rfl

def staffRunner : WorkerRunner :=
  { workerId := "worker", agentTypes := ["agent"], groupName := "engines" }

def staffedStore : RedisStore :=
  ((Fleet.fresh.store.exec (.sadd (.workerDeclaredAgentTypes "worker") "agent")).2.exec
    (.sadd (.agentTypeMembers "agent") "worker")).2

theorem staffed_declares : DeclaresAll "worker" staffedStore := by
  intro agentType inside
  by_cases same : agentType = "agent"
  · subst same
    exact Redis.Store.mem_exec (Redis.Store.mem_sadd _ _ _) rfl
  · have differ : Key.agentTypeMembers "agent" ≠ Key.agentTypeMembers agentType := by
      rintro ⟨⟩
      exact same rfl
    have outside : "worker" ∉ staffedStore.members (.agentTypeMembers agentType) :=
      Redis.Store.not_mem_exec
        (Redis.Store.not_mem_exec (show "worker" ∉ [] by simp) (by simp [Redis.Command.adds]))
        (by simp [Redis.Command.adds, differ])
    exact absurd inside outside

def suspension : BarringCall := .suspend "maintenance"

/-- The worker's tick, another operator's leave for it to serve its agent type, and routing. -/
inductive StaffTask where
  | ticks | allows | routes
deriving DecidableEq

def staffTasks : StaffTask → RosterTask
  | .ticks => .tick staffRunner {}
  | .allows => .allow "agent" "worker"
  | .routes => .route "agent"

def staffPlayer : Player effects Fleet StaffTask Unit Int :=
  programPlayer fun index => (staffTasks index).program

theorem staff_plays : staffPlayer.Plays (rosterWorld (fun _ => False) staffTasks) :=
  programPlayer_plays _ _

def suspendedFleet : Fleet :=
  { Fleet.fresh with
    store := (Prog.run redisAnswer ((suspension.task "worker").start ()) staffedStore).2 }

def suspendedConfig : Config effects Fleet StaffTask Unit := ⟨suspendedFleet, fun _ => none⟩

def staffMoves : List (Move StaffTask Int) :=
  Move.turn .ticks 20 ++ Move.turn .allows 2 ++ Move.turn .routes 2

def staffPlay : List (Event effects StaffTask) × Config effects Fleet StaffTask Unit :=
  staffPlayer.play suspendedConfig staffMoves

theorem staffTasks_standing (index : StaffTask) :
    ¬ (staffTasks index).Lifts "worker" suspension.bar := by
  cases index with
  | ticks => exact id
  | allows => exact fun lifts => Bar.noConfusion lifts.1
  | routes => exact id

theorem barred_worker_unrouted_suspended :
    "worker" ∈ staffedStore.members (.agentTypeMembers "agent") ∧
    "worker" ∉ staffPlay.2.state.store.members (.agentTypeMembers "agent") := by
  have returned : (Prog.run redisAnswer ((suspension.task "worker").start ()) staffedStore).1 =
      (.ok ⟨⟩, ()) := by
    decide +kernel
  have ends := Prog.ends_run redisAnswer_clocked ((suspension.task "worker").start ()) staffedStore
  rw [returned] at ends
  have runs := staff_plays.runs suspendedConfig staffMoves
  have unrouted := barred_worker_unrouted staffed_declares (by decide +kernel) ends
    (fun _ => rfl) staffTasks_standing runs
  exact ⟨by decide +kernel, (unrouted "agent" rfl).1⟩

end ByFramework
