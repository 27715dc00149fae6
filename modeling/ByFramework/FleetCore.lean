import ByFramework.Async.Schedule
import ByFramework.HeartbeatCore
import ByFramework.RunnerCore

/-!
A fleet: worker processes over one Redis. Each process keeps a memory of its own, which its
tasks share; a process that dies loses it.
-/

namespace ByFramework

open Async

/-- What a worker process remembers between two steps of its tasks. -/
structure ProcessMemory where
  controllers : List (Option String) := []
  executions : List (String × Nat) := []
  messages : List (String × String) := []
  loop : LoopState := ⟨true, "active", "normal"⟩
  health : HealthRecord := {}
  handed : List StreamMessage := []

namespace ProcessMemory

/-- Raise a signal; one that was raised keeps its first reason. -/
def raise (controllers : List (Option String)) (controller : Nat) (reason : String) :
    List (Option String) :=
  controllers.modify controller fun signal => signal.or (some reason)

def answer (memory : ProcessMemory) :
    (request : ProcessRequest) → request.Reply × ProcessMemory
  | .newAbortController =>
      (memory.controllers.length, { memory with controllers := memory.controllers ++ [none] })
  | .abort controller reason =>
      ((), { memory with controllers := raise memory.controllers controller reason })
  | .abortReason controller => (memory.controllers[controller]?.join, memory)
  | .trackExecution executionId messageId controller => ((), { memory with
      executions := Redis.upsert executionId controller memory.executions
      messages := Redis.upsert messageId executionId memory.messages })
  | .executionOf messageId => (memory.messages.lookup messageId, memory)
  | .controllerOf executionId => (memory.executions.lookup executionId, memory)
  | .untrack messageId executionId => ((), { memory with
      executions := memory.executions.filter fun entry => entry.1 ≠ executionId
      messages := memory.messages.filter fun entry => entry.1 ≠ messageId })
  | .setLifecycle lifecycle =>
      ((), { memory with loop := { memory.loop with adminLifecycle := lifecycle } })
  | .fence =>
      ((), { memory with loop := { memory.loop with running := false, healthState := "fatal" } })
  | .startLoop => ((), { memory with loop := { memory.loop with running := true } })
  | .evaluateHealth now signals =>
      let verdict := evaluateHealth now signals memory.loop.healthState memory.health
      -- A fatal verdict ends the loop (`onUnhealthy`) before anything else of the process can run.
      (verdict.keepsRenewing, { memory with
        loop := { memory.loop with
          running := memory.loop.running && verdict.keepsRenewing
          healthState := verdict.healthState }
        health := verdict.record })
  | .loopState => (memory.loop, memory)
  | .handOver streamName msgId command =>
      ((), { memory with handed := memory.handed ++ [⟨streamName, msgId, command⟩] })
  | .reach _ => ((), memory)

end ProcessMemory

structure Fleet where
  store : RedisStore
  process : String → ProcessMemory

def Fleet.fresh : Fleet := ⟨Redis.Store.empty, fun _ => {}⟩

namespace Fleet

def withProcess (fleet : Fleet) (workerId : String) (memory : ProcessMemory) : Fleet :=
  { fleet with process := Function.update fleet.process workerId memory }

/-- A command that may fail does so before or after Redis carried it out. -/
def serve (mayFail : RedisCommand → Prop) (fleet : Fleet) :
    (op : Op) → op.Reply → Fleet → Prop
  | .redis command, reply, after =>
      (fleet.store.exec command = (reply, after.store) ∧ after.process = fleet.process) ∨
      mayFail command ∧ (∃ message, reply = .error message) ∧ after.process = fleet.process ∧
        (after.store = fleet.store ∨ after.store = (fleet.store.exec command).2)
  | .process workerId request, reply, after =>
      ((fleet.process workerId).answer request).1 = reply ∧
        after = fleet.withProcess workerId ((fleet.process workerId).answer request).2
  | _, _, after => after = fleet

/-- The answers used where a run is computed; nothing fails there. -/
def answer (fleet : Fleet) : (op : Op) → op.Reply × Fleet
  | .redis command =>
      ((fleet.store.exec command).1, { fleet with store := (fleet.store.exec command).2 })
  | .process workerId request =>
      (((fleet.process workerId).answer request).1,
        fleet.withProcess workerId ((fleet.process workerId).answer request).2)
  | op => ((redisAnswer fleet.store op).1, fleet)

theorem answer_serves (mayFail : RedisCommand → Prop) (fleet : Fleet) (op : Op) :
    fleet.serve mayFail op (fleet.answer op).1 (fleet.answer op).2 := by
  cases op with
  | redis command => exact .inl ⟨rfl, rfl⟩
  | process workerId request => exact ⟨rfl, rfl⟩
  | _ => rfl

/-- Time passes, or the process of a worker id starts afresh. -/
inductive Lapse (fleet : Fleet) : Fleet → Prop
  | time (now : Int) : fleet.store.clock ≤ now →
      Lapse fleet { fleet with store := fleet.store.advance now }
  | restart (workerId : String) : Lapse fleet (fleet.withProcess workerId {})

end Fleet

def toEnd {σ α : Type} (task : Proc σ α) (memory : σ) : Prog effects Unit :=
  task.start memory >>= fun _ => .done ()

section Programs

variable {ι : Type}

def programWorld (mayFail : RedisCommand → Prop) (program : ι → Prog effects Unit) :
    World effects Fleet ι Unit where
  serve := Fleet.serve mayFail
  start fleet index started after := started = program index ∧ after = fleet
  stop fleet _ _ after := after = fleet
  lapse := Fleet.Lapse

def livingWorld (mayFail : RedisCommand → Prop) (program : ι → Prog effects Unit) :
    World effects Fleet ι Unit :=
  { programWorld mayFail program with
    lapse := fun fleet after => ∃ now, fleet.store.clock ≤ now ∧
      after = { fleet with store := fleet.store.advance now } }

def programPlayer (program : ι → Prog effects Unit) : Player effects Fleet ι Unit Int where
  answer fleet op := match op with
    | .uuid => (toString fleet.store.clock, fleet)
    | op => fleet.answer op
  program := program
  begins fleet _ := some fleet
  pass fleet now := { fleet with store := fleet.store.advance (max fleet.store.clock now) }

theorem programPlayer_plays (mayFail : RedisCommand → Prop) (program : ι → Prog effects Unit) :
    (programPlayer program).Plays (programWorld mayFail program) where
  serve fleet op := by
    cases op with
    | redis command => exact Fleet.answer_serves mayFail fleet (.redis command)
    | process workerId request => exact Fleet.answer_serves mayFail fleet (.process workerId request)
    | _ => rfl
  start _ _ _ begun := ⟨rfl, (Option.some.inj begun).symm⟩
  stop _ _ _ := rfl
  lapse _ _ := .time _ (le_max_left _ _)

theorem programPlayer_plays_living (mayFail : RedisCommand → Prop)
    (program : ι → Prog effects Unit) :
    (programPlayer program).Plays (livingWorld mayFail program) where
  serve := (programPlayer_plays mayFail program).serve
  start := (programPlayer_plays mayFail program).start
  stop := (programPlayer_plays mayFail program).stop
  lapse _ _ := ⟨_, le_max_left _ _, rfl⟩

end Programs

end ByFramework
