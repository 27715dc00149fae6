import ByFramework.HeartbeatCore

/-! What a runner does to come up and to stay is confined to a few kinds of operations. -/

namespace ByFramework

open Async

def Key.isPresence : Key → Bool
  | .workerOnlineLease _ | .workerDeclaredAgentTypes _ => true
  | _ => false

def lifecycleCommand : RedisCommand → Bool
  | .get _ | .smembers _ | .sismember _ _ | .hgetall _ => true
  | .sadd _ _ | .srem _ _ | .xgroupCreate _ _ => true
  | .set key _ _ _ | .del key | .expire key _ => key.isPresence
  | _ => false

def Op.ofLifecycle : Op → Bool
  | .redis command => lifecycleCommand command
  | .now | .uuid => true
  | .process _ .fence | .process _ (.setLifecycle _) => true
  | _ => false

def lifecycle : Contract effects := .only fun op => op.ofLifecycle = true

section

variable {σ : Type} {inv : σ → Prop}

theorem plainId_lifecycle : (plainId : Proc σ String).Uses lifecycle inv :=
  Task.uses_bind (Task.uses_await rfl) fun _ => Task.uses_pure _

theorem heartbeatWorker_lifecycle (workerId : String) (leaseTtlSeconds : Nat) :
    (WorkerRegistry.heartbeatWorker workerId leaseTtlSeconds).Uses lifecycle fun _ => True := by
  refine Task.uses_bind (Task.uses_await rfl) fun now => ?_
  refine Task.uses_bind Task.uses_get fun registry => ?_
  refine uses_redis_bind rfl fun current _ => ?_
  dsimp only
  have ends (written : Bool) : ((if (!written) = true then pure false
      else do
        let _ ← redis (.sadd .knownWorkers workerId)
        pure true) : Proc WorkerRegistry Bool).Uses lifecycle fun _ => True := by
    split
    · exact Task.uses_pure _
    · exact uses_redis_bind rfl fun _ _ => Task.uses_pure _
  split
  · split
    · exact Task.uses_bind (uses_redis rfl) ends
    · split
      · exact ends false
      · exact Task.uses_bind (uses_redis rfl) ends
  · split
    · exact ends false
    · exact Task.uses_bind (uses_redis rfl) ends

theorem registerWorkerMembership_lifecycle (workerId : String) (agentTypes : List String) :
    (registerWorkerMembership workerId agentTypes : Proc σ PUnit).Uses lifecycle inv := by
  refine uses_redis_bind rfl fun _ _ => Task.uses_forEach _ fun agentType _ => ?_
  refine uses_redis_bind rfl fun _ _ => Task.uses_bind (uses_redis rfl) fun denied => ?_
  split
  · exact uses_redis_bind rfl fun _ _ => Task.uses_pure _
  · exact Task.uses_pure _

theorem claimWorkerId_lifecycle (workerId : String) (ttlSeconds : Nat) :
    (WorkerRegistry.claimWorkerId workerId ttlSeconds).Uses lifecycle fun _ => True := by
  refine Task.uses_bind Task.uses_get fun registry => ?_
  refine Task.uses_bind plainId_lifecycle fun token => ?_
  refine Task.uses_bind (uses_redis rfl) fun ok => ?_
  dsimp only
  split
  · exact Task.uses_throw_bind _ _
  · exact Task.uses_bind (Task.uses_modify fun _ _ => trivial)
      fun _ => uses_redis_bind rfl fun _ _ => Task.uses_pure _

end

namespace WorkerRunner

theorem onRegistry_lifecycle {α : Type} {task : Proc WorkerRegistry α}
    (uses : task.Uses lifecycle fun _ => True) :
    (onRegistry task).Uses lifecycle fun _ => True :=
  Task.uses_focus uses (fun _ _ => trivial) fun _ _ _ _ => trivial

theorem assertHeartbeatTiming_lifecycle :
    assertHeartbeatTiming.Uses lifecycle fun _ => True := by
  refine Task.uses_bind Task.uses_get fun runner => ?_
  dsimp only
  split
  · exact Task.uses_throw_bind _ _
  · split
    · exact Task.uses_throw_bind _ _
    · split
      · exact Task.uses_throw _
      · exact Task.uses_pure _

theorem createGroup_lifecycle {σ : Type} {inv : σ → Prop} (streamName : Key)
    (groupName : String) :
    (createGroup streamName groupName : Proc σ PUnit).Uses lifecycle inv :=
  Task.uses_failSoft (uses_redis_bind rfl fun _ _ => Task.uses_pure _)

theorem renewLease_lifecycle : renewLease.Uses lifecycle fun _ => True := by
  refine Task.uses_bind Task.uses_get fun runner => ?_
  refine Task.uses_bind (Task.uses_tryCatch (Task.uses_bind (onRegistry_lifecycle
    (heartbeatWorker_lifecycle _ _)) fun _ => Task.uses_pure _) fun _ => Task.uses_pure _)
    fun renewed => ?_
  split
  · exact Task.uses_pure _
  · exact Task.uses_bind (Task.uses_await rfl) fun _ => Task.uses_pure _
  · exact Task.uses_pure _

theorem startHeartbeat_lifecycle : startHeartbeat.Uses lifecycle fun _ => True := by
  refine Task.uses_bind Task.uses_get fun runner => ?_
  refine Task.uses_bind (uses_redis rfl) fun adminState => ?_
  have beats : (do
      let outcome ← renewLease
      if outcome ≠ .fenced ∧ lifecycleOf adminState ≠ "active" then
        ofProcess runner.workerId (.setLifecycle (lifecycleOf adminState)) :
      Proc WorkerRunner PUnit).Uses lifecycle fun _ => True := by
    refine Task.uses_bind renewLease_lifecycle fun outcome => ?_
    split
    · exact Task.uses_await rfl
    · exact Task.uses_pure _
  dsimp only
  split
  · exact Task.uses_bind (registerWorkerMembership_lifecycle _ _) fun _ => beats
  · exact beats

theorem initializeRunner_lifecycle : initializeRunner.Uses lifecycle fun _ => True := by
  refine Task.uses_bind assertHeartbeatTiming_lifecycle fun _ => ?_
  refine Task.uses_bind Task.uses_get fun runner => ?_
  refine Task.uses_bind (onRegistry_lifecycle (claimWorkerId_lifecycle _ _)) fun token => ?_
  refine Task.uses_bind (Task.uses_modify fun _ _ => trivial) fun _ => ?_
  refine Task.uses_bind (Task.uses_forEach _ fun agentType _ => createGroup_lifecycle _ _)
    fun _ => ?_
  exact Task.uses_bind (createGroup_lifecycle _ _) fun _ => startHeartbeat_lifecycle

end WorkerRunner

end ByFramework
