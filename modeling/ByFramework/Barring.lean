import ByFramework.Async.Accord
import ByFramework.Cancel
import ByFramework.Fleet
import ByFramework.Heartbeat
import ByFramework.Redis.Groups
import ByFramework.Redis.Membership

/-!
A worker that an operator suspended, evicted or denied an agent type: whatever workers and
operators do next, short of lifting it, routing does not find the worker there.
-/

namespace ByFramework

open Async

/-- What keeps a worker out: of every agent type, or of one. -/
inductive Bar where
  | lifecycle
  | denied (agentType : String)
deriving DecidableEq

/-- Whether a bar keeps its worker out of an agent type. -/
def Bar.covers : Bar → String → Bool
  | .lifecycle, _ => true
  | .denied barred, agentType => barred = agentType

def Bar.key (workerId : String) : Bar → Key
  | .lifecycle => .workerAdminState workerId
  | .denied agentType => .agentTypeDenied agentType

def Bar.Holds (workerId : String) (store : RedisStore) : Bar → Prop
  | .lifecycle => WorkerRunner.lifecycleOf (store.hash (.workerAdminState workerId)) ≠ "active"
  | .denied agentType => workerId ∈ store.members (.agentTypeDenied agentType)

/-- The bar stands for good, and its worker is in no member set that it covers. -/
structure Barred (workerId : String) (bar : Bar) (store : RedisStore) : Prop where
  holds : bar.Holds workerId store
  lasting : store.expiresAt (bar.key workerId) = none
  outside : ∀ agentType, bar.covers agentType = true →
    workerId ∉ store.members (.agentTypeMembers agentType)

def activates (field : String × Value) : Bool :=
  field.1 = "lifecycle" && (field.2.asText = "" || field.2.asText = "active")

def Bar.lifts (workerId : String) : Bar → RedisCommand → Bool
  | .lifecycle, .hset key fields => key = .workerAdminState workerId && fields.any activates
  | .lifecycle, command => command.rewrites (.workerAdminState workerId)
  | .denied agentType, command => command.takes (.agentTypeDenied agentType) workerId

def Bar.readmits (workerId : String) (bar : Bar) (command : RedisCommand) : Bool :=
  bar.lifts workerId command || !command.keeps (fun key => decide (key = bar.key workerId)) ||
    match command with
    | .sadd (.agentTypeMembers agentType) member => bar.covers agentType && member = workerId
    | _ => false

def Bar.Finds (workerId : String) (bar : Bar) : (command : RedisCommand) → command.Reply → Prop
  | .hgetall key, state => bar = .lifecycle → key = .workerAdminState workerId →
      WorkerRunner.lifecycleOf state ≠ "active"
  | .sismember key member, listed => ∀ agentType, bar = .denied agentType →
      key = .agentTypeDenied agentType → member = workerId → listed = true
  | .smembers key, found => ∀ agentType, bar.covers agentType = true →
      key = .agentTypeMembers agentType → workerId ∉ found
  | _, _ => True

def keepsOut (workerId : String) (bar : Bar) : Contract effects where
  allowed op := ∀ command, op = .redis command → bar.readmits workerId command = false
  expected op reply := match op, reply with
    | .redis command, .ok value => bar.Finds workerId command value
    | _, _ => True

/-! ### What a command does to a bar -/

section

variable {workerId : String} {bar : Bar} {store : RedisStore} {command : RedisCommand}

theorem lookup_upsert_lifecycle {name : String} {value : Value} {hash : List (String × Value)}
    (idle : activates (name, value) = false) (barred : WorkerRunner.lifecycleOf hash ≠ "active") :
    WorkerRunner.lifecycleOf (Redis.upsert name value hash) ≠ "active" := by
  unfold WorkerRunner.lifecycleOf at barred ⊢
  rw [Redis.lookup_upsert]
  split
  · rename_i same
    subst same
    simp only [activates, decide_true, Bool.true_and, Bool.or_eq_false_iff,
      decide_eq_false_iff_not] at idle
    simpa [idle.1] using idle.2
  · exact barred

theorem lifecycleOf_upsertAll {fields hash : List (String × Value)}
    (idle : fields.any activates = false) (barred : WorkerRunner.lifecycleOf hash ≠ "active") :
    WorkerRunner.lifecycleOf (Redis.upsertAll fields hash) ≠ "active" := by
  induction fields generalizing hash with
  | nil => exact barred
  | cons field rest ih =>
      rw [List.any_cons, Bool.or_eq_false_iff] at idle
      exact ih idle.2 (lookup_upsert_lifecycle idle.1 barred)

theorem Bar.Holds.exec (holds : bar.Holds workerId store)
    (spared : bar.lifts workerId command = false) :
    bar.Holds workerId (store.exec command).2 := by
  cases bar with
  | denied agentType => exact Redis.Store.mem_exec holds spared
  | lifecycle =>
      by_cases writes : command.rewrites (.workerAdminState workerId) = true
      · cases command with
        | hset key fields =>
            obtain rfl : key = .workerAdminState workerId := of_decide_eq_true writes
            simp only [Bar.lifts, decide_true, Bool.true_and] at spared
            simp only [Bar.Holds, Redis.Store.exec, Function.update_self]
            exact lifecycleOf_upsertAll spared holds
        | set key value ifAbsent ttl => exact absurd writes (ne_true_of_eq_false spared)
        | del key => exact absurd writes (ne_true_of_eq_false spared)
        | hincrby key field amount => exact absurd writes (ne_true_of_eq_false spared)
        | _ => cases writes
      · simp only [Bar.Holds, Redis.Store.hash_exec (Bool.not_eq_true _ ▸ writes)]
        exact holds

theorem Barred.exec (barred : Barred workerId bar store)
    (spared : bar.readmits workerId command = false) :
    Barred workerId bar (store.exec command).2 := by
  simp only [Bar.readmits, Bool.or_eq_false_iff] at spared
  obtain ⟨⟨standing, endless⟩, closed⟩ := spared
  rw [Bool.not_eq_false'] at endless
  have lasting := Redis.Store.expiresAt_exec store endless (decide_eq_true rfl)
  refine ⟨barred.holds.exec standing, lasting.trans barred.lasting, ?_⟩
  intro agentType covered
  refine Redis.Store.not_mem_exec (barred.outside agentType covered) ?_
  unfold Redis.Command.adds
  split
  · rename_i key member
    by_cases same : key = .agentTypeMembers agentType
    · subst same
      simpa [covered] using closed
    · simp [same]
  · rfl

theorem Barred.advance (barred : Barred workerId bar store) (now : Int) :
    Barred workerId bar (store.advance now) where
  holds := by
    have standing := barred.holds
    have lasting := barred.lasting
    cases bar with
    | lifecycle =>
        have same := Redis.Store.hash_advance lasting now
        simp only [Bar.Holds, Bar.key] at standing same ⊢
        rwa [same]
    | denied agentType =>
        have same := Redis.Store.members_advance lasting now
        simp only [Bar.Holds, Bar.key] at standing same ⊢
        rwa [same]
  lasting := Redis.Store.expiresAt_advance barred.lasting now
  outside agentType covered := Redis.Store.not_mem_advance (barred.outside agentType covered) now

theorem Barred.finds (barred : Barred workerId bar store) {value : command.Reply}
    (read : (store.exec command).1 = .ok value) : bar.Finds workerId command value := by
  cases command with
  | hgetall key =>
      rintro rfl rfl
      cases read
      exact barred.holds
  | sismember key member =>
      rintro agentType rfl rfl rfl
      cases read
      exact decide_eq_true barred.holds
  | smembers key =>
      rintro agentType covered rfl
      cases read
      exact barred.outside agentType covered
  | _ => trivial

end

def Key.isStaffing : Key → Bool
  | .workerAdminState _ | .agentTypeMembers _ | .agentTypeDenied _ => true
  | _ => false

def spareCommand : RedisCommand → Bool
  | .srem (.agentTypeMembers _) _ => true
  | .set key _ _ _ | .del key | .expire key _ | .hset key _ | .hincrby key _ _ => !key.isStaffing
  | .sadd key _ | .srem key _ => !key.isStaffing
  | _ => true

def Op.isSpare : Op → Bool
  | .redis command => spareCommand command
  | _ => true

def unstaffing : Contract effects := .only fun op => op.isSpare = true

section Spared

variable {σ α : Type} {inv : σ → Prop} {workerId : String} {bar : Bar}

theorem key_isStaffing : (bar.key workerId).isStaffing = true := by
  cases bar <;> rfl

theorem readmits_of_spare {command : RedisCommand} (spare : spareCommand command = true) :
    bar.readmits workerId command = false := by
  have apart {key : Key} (plain : (!key.isStaffing) = true) : key ≠ bar.key workerId := by
    rintro rfl
    rw [key_isStaffing] at plain
    cases plain
  cases command with
  | set key _ _ _ | del key | expire key _ | hset key _ | hincrby key _ _ =>
      have differ := apart spare
      cases bar <;> simp_all [Bar.readmits, Bar.lifts, Bar.key, Redis.Command.keeps,
        Redis.Command.rewrites, Redis.Command.takes]
  | sadd key member =>
      cases key with
      | agentTypeMembers agentType => cases spare
      | _ => cases bar <;> rfl
  | srem key member =>
      cases bar with
      | lifecycle => rfl
      | denied agentType =>
          have differ : key ≠ .agentTypeDenied agentType := by
            rintro rfl
            cases spare
          simp [Bar.readmits, Bar.lifts, Redis.Command.keeps, Redis.Command.takes, differ]
  | _ => cases bar <;> rfl

theorem keepsOut_of_unstaffing {task : Proc σ α} (uses : task.Uses unstaffing inv) :
    task.Uses (keepsOut workerId bar) inv := by
  refine uses.mono ?_ fun _ _ _ => trivial
  rintro op spare command rfl
  exact readmits_of_spare spare

end Spared

end ByFramework
