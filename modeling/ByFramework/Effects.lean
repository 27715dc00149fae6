import ByFramework.Async.Alone
import ByFramework.Async.Footprint
import ByFramework.Async.Pool
import ByFramework.Records

/-!
The operations the framework awaits: Redis commands, the clock, fresh ids, history and
workspace calls, and the memory that the tasks of one worker process share.
-/

namespace ByFramework

open Async

abbrev RedisCommand := Redis.Command Key Value

abbrev RedisStore := Redis.Store Key Value

/-- What the consume loop looks at between two rounds. -/
structure LoopState where
  running : Bool
  adminLifecycle : String
  healthState : String
deriving DecidableEq, Repr

/-- What a runner has measured of itself by the time its health is looked at. -/
structure HealthSignals where
  leaseTtlSeconds : Nat := 15
  lastRenewOkAt : Int := 0
  peakLoopLagMs : Int := 0
  lastConsumerTick : Int := 0
  inFlight : Nat := 0
  maxConcurrency : Nat := 1
deriving DecidableEq, Repr

/-- Points of a message's handling that statements refer to; nothing happens there. -/
inductive Moment where
  | messageStarts (streamName : Key) (msgId : Nat)
  | messageHandled (streamName : Key) (msgId : Nat)
  | handlerStarts (sessionId messageId : String)
  | handlerEnds (sessionId messageId : String) (returned : Bool)
  | messageFails (sessionId messageId : String)
  | controlMessage (streamName : Key) (msgId : Nat)
deriving DecidableEq, Repr

/-- Reads and writes of a runner's own bookkeeping, shared by the tasks of its process. -/
inductive ProcessRequest where
  | newAbortController
  | abort (controller : Nat) (reason : String)
  | abortReason (controller : Nat)
  | trackExecution (executionId messageId : String) (controller : Nat)
  | executionOf (messageId : String)
  | controllerOf (executionId : String)
  | untrack (messageId executionId : String)
  | setLifecycle (lifecycle : String)
  | fence
  | startLoop
  | evaluateHealth (now : Int) (signals : HealthSignals)
  | loopState
  | handOver (streamName : Key) (msgId : Nat) (command : GatewayCommand)
  | reach (moment : Moment)

@[reducible] def ProcessRequest.Reply : ProcessRequest → Type
  | .newAbortController => Nat
  | .abort _ _ => Unit
  | .abortReason _ => Option String
  | .trackExecution _ _ _ => Unit
  | .executionOf _ => Option String
  | .controllerOf _ => Option Nat
  | .untrack _ _ => Unit
  | .setLifecycle _ => Unit
  | .fence => Unit
  | .startLoop => Unit
  | .evaluateHealth _ _ => Bool
  | .loopState => LoopState
  | .handOver _ _ _ => Unit
  | .reach _ => Unit

inductive Op where
  | redis (command : RedisCommand)
  | endPipeline
  | now
  | uuid
  | saveMessage (sessionId role : String) (content : JsonValue) (metadata : JsonObject)
  | getSessionHistory (sessionId : String)
  | setupWorkspace (sessionId taskId : String)
  | cleanupTask (sessionId taskId : String)
  | persistAgentReturnState (command : GatewayCommand)
  | hook (name : String)
  | process (workerId : String) (request : ProcessRequest)

@[reducible] def Op.Reply : Op → Type
  | .redis command => Except String command.Reply
  | .endPipeline => Except JsError Unit
  | .now => Int
  | .uuid => String
  | .saveMessage _ _ _ _ => Except JsError Unit
  | .getSessionHistory _ => Except JsError JsonValue
  | .setupWorkspace _ _ => Except JsError Unit
  | .cleanupTask _ _ => Except JsError Unit
  | .persistAgentReturnState _ => Except JsError Unit
  | .hook _ => Unit
  | .process _ request => request.Reply

abbrev effects : Signature := ⟨Op, Op.Reply⟩

/-- An async function with local memory `σ` that may throw. -/
abbrev Proc (σ : Type) := Task effects JsError σ

section Requests

variable {σ α : Type}

def await (op : Op) : Proc σ op.Reply :=
  @Task.await effects JsError σ op

def orThrow : Except JsError α → Proc σ α
  | .ok value => pure value
  | .error error => throw error

def redisError (message : String) : JsError := ⟨"ReplyError", message⟩

/-- Send one command; a failed reply is thrown. -/
def redis (command : RedisCommand) : Proc σ command.Reply := do
  match ← await (.redis command) with
  | .ok reply => pure reply
  | .error message => throw (redisError message)

/-- The commands of a pipeline in order: one that is refused is reported, not thrown, but the
exchange as a whole may fail. -/
def pipeline (commands : List RedisCommand) : Proc σ PUnit := do
  Task.forEach commands fun command => do
    let _ ← await (.redis command)
  orThrow (← await .endPipeline)

def dateNow : Proc σ Int := await .now

def uuidv4 : Proc σ String := await .uuid

/-- The first characters of a fresh id, as `uuidv4().slice(0, 8)` takes them. -/
def shortId (label : String) : Proc σ String := do
  let id ← uuidv4
  pure (label ++ String.ofList (id.toList.take 8))

def plainId : Proc σ String := do
  let id ← uuidv4
  pure (String.ofList (id.toList.filter (· ≠ '-')))

def saveMessage (sessionId role : String) (content : JsonValue) (metadata : JsonObject) :
    Proc σ PUnit := do
  orThrow (← await (.saveMessage sessionId role content metadata))

def getSessionHistory (sessionId : String) : Proc σ JsonValue := do
  orThrow (← await (.getSessionHistory sessionId))

/-- Ask for the bookkeeping of a worker's process. -/
def ofProcess (workerId : String) (request : ProcessRequest) : Proc σ request.Reply :=
  await (.process workerId request)

/-- Let the plugins know; what they throw is caught where they are called. -/
def hook (name : String) : Proc σ PUnit := await (.hook name)

end Requests

theorem start_redis_bind {σ β : Type} (command : RedisCommand)
    (next : command.Reply → Proc σ β) (memory : σ) :
    Task.start (redis command >>= next) memory =
      .call (.redis command) fun reply => match reply with
        | .ok value => Task.start (next value) memory
        | .error message => .done (.error (redisError message), memory) := by
  change @Prog.call effects _ (.redis command) _ = _
  congr 1
  funext reply
  cases reply with
  | ok value => rfl
  | error message => rfl

section Rules

variable {σ State : Type} {setting : Setting effects State} {memory : σ} {state : State}

theorem wp_redis {command : RedisCommand} {post : Except JsError command.Reply → σ → State → Prop}
    (holds : ∀ later, setting.rely state later → setting.inv later →
      setting.allow later (.redis command) ∧
      ∀ reply after, setting.serve later (.redis command) reply after → setting.inv after →
        ∀ last, setting.rely after last → setting.inv last →
          post (reply.mapError redisError) memory last) :
    (redis command : Proc σ _).wp setting post memory state := by
  intro later step valid
  obtain ⟨allowed, served⟩ := holds later step valid
  refine ⟨allowed, fun reply after answer kept => ?_⟩
  cases reply with
  | ok value => exact served (.ok value) after answer kept
  | error message => exact served (.error message) after answer kept

theorem wp_dateNow {post : Except JsError Int → σ → State → Prop}
    (holds : ∀ later, setting.rely state later → setting.inv later →
      setting.allow later .now ∧
      ∀ reply after, setting.serve later .now reply after → setting.inv after →
        ∀ last, setting.rely after last → setting.inv last → post (.ok reply) memory last) :
    (dateNow : Proc σ Int).wp setting post memory state :=
  Task.wp_await holds

end Rules

section Footprint

variable {σ α β : Type} {contract : Contract effects} {inv : σ → Prop}

theorem uses_redis {command : RedisCommand} (permitted : contract.allowed (.redis command)) :
    (redis command : Proc σ _).Uses contract inv := by
  intro memory held
  refine ⟨permitted, fun reply _ => ?_⟩
  cases reply with
  | ok value => exact held
  | error message => exact held

theorem uses_redis_bind {command : RedisCommand} {next : command.Reply → Proc σ β}
    (permitted : contract.allowed (.redis command))
    (rest : ∀ value, contract.expected (.redis command) (.ok value) →
      (next value).Uses contract inv) :
    (redis command >>= next).Uses contract inv := by
  intro memory held
  rw [start_redis_bind]
  refine ⟨permitted, fun reply expected => ?_⟩
  cases reply with
  | ok value => exact rest value expected memory held
  | error message => exact held

theorem uses_redis_bind_iff [Nonempty σ] {command : RedisCommand}
    {next : command.Reply → Proc σ β} :
    (redis command >>= next).Uses contract ↔ contract.allowed (.redis command) ∧
      ∀ value, contract.expected (.redis command) (.ok value) → (next value).Uses contract := by
  constructor
  · intro uses
    obtain ⟨memory⟩ := ‹Nonempty σ›
    constructor
    · have whole := uses memory trivial
      rw [start_redis_bind] at whole
      exact whole.1
    · intro value expected later held
      have whole := uses later held
      rw [start_redis_bind] at whole
      exact whole.2 (.ok value) expected
  · rintro ⟨allowed, rest⟩
    exact uses_redis_bind allowed rest

theorem uses_orThrow (outcome : Except JsError α) :
    (orThrow outcome : Proc σ α).Uses contract inv := by
  cases outcome with
  | ok value => exact Task.uses_pure value
  | error error => exact Task.uses_throw error

def Key.isBackground : Key → Bool
  | .ctrlStream _ | .workerCtrlStream _ | .controlPlaneWakeupStream => false
  | .controlPlaneDeliveryPendingStream | .sessionDataStream _ => false
  | .taskGroup _ | .taskGroupResults _ => false
  | .waitIndex _ | .waitConsumed _ _ => false
  | _ => true

def backgroundCommand : RedisCommand → Bool
  | .get _ | .smembers _ | .sismember _ _ => true
  | .hget (.taskGroup _) _ => false
  | .hget _ _ | .hgetall _ => true
  | .set key _ _ _ | .del key | .expire key _ | .hset key _ => key.isBackground
  | _ => false

def Op.isBackground : Op → Bool
  | .redis command => backgroundCommand command
  | .endPipeline | .now | .uuid => true
  | _ => false

def background : Contract effects := .only fun op => op.isBackground = true

theorem uses_of_background {task : Proc σ α} (uses : task.Uses background inv)
    (quiet : ∀ op : Op, op.isBackground = true → contract.allowed op) : task.Uses contract inv :=
  uses.mono quiet fun _ _ _ => trivial

def Op.isReading : Op → Bool
  | .redis (.get _) | .redis (.smembers _) | .redis (.sismember _ _) => true
  | .redis (.hget (.taskGroup _) _) => false
  | .redis (.hget _ _) | .redis (.hgetall _) => true
  | .now | .uuid => true
  | _ => false

def reading : Contract effects := .only fun op => op.isReading = true

theorem Op.isBackground_of_reading {op : Op} (reads : op.isReading = true) :
    op.isBackground = true := by
  unfold Op.isReading at reads
  split at reads
  · rfl
  · rfl
  · rfl
  · cases reads
  · rename_i other
    simp only [Op.isBackground]
    unfold backgroundCommand
    split <;> simp_all
  · rfl
  · rfl
  · rfl
  · cases reads

theorem background_of_reading {task : Proc σ α} (uses : task.Uses reading inv) :
    task.Uses background inv :=
  uses.mono (fun _ reads => Op.isBackground_of_reading reads) fun _ _ _ => trivial

theorem uses_of_reading {task : Proc σ α} (uses : task.Uses reading inv)
    (reads : ∀ op : Op, op.isReading = true → contract.allowed op) : task.Uses contract inv :=
  uses.mono reads fun _ _ _ => trivial

theorem dateNow_background : (dateNow : Proc σ Int).Uses background inv := Task.uses_await rfl

theorem uuidv4_background : (uuidv4 : Proc σ String).Uses background inv := Task.uses_await rfl

theorem shortId_background (label : String) : (shortId label : Proc σ String).Uses background inv :=
  Task.uses_bind uuidv4_background fun _ => Task.uses_pure _

theorem dateNow_reading : (dateNow : Proc σ Int).Uses reading inv := Task.uses_await rfl

theorem shortId_reading (label : String) : (shortId label : Proc σ String).Uses reading inv :=
  Task.uses_bind (Task.uses_await rfl) fun _ => Task.uses_pure _

theorem plainId_reading : (plainId : Proc σ String).Uses reading inv :=
  Task.uses_bind (Task.uses_await rfl) fun _ => Task.uses_pure _

theorem plainId_background : (plainId : Proc σ String).Uses background inv :=
  Task.uses_bind uuidv4_background fun _ => Task.uses_pure _

theorem uses_pipeline {commands : List RedisCommand}
    (permitted : ∀ command ∈ commands, contract.allowed (.redis command))
    (ends : contract.allowed .endPipeline) : (pipeline commands : Proc σ PUnit).Uses contract inv := by
  refine Task.uses_bind (Task.uses_forEach commands fun command listed => ?_) fun _ => ?_
  · exact Task.uses_bind (Task.uses_await (permitted command listed)) fun _ => Task.uses_pure _
  · exact Task.uses_bind (Task.uses_await ends) fun outcome => uses_orThrow outcome

end Footprint

/-! ### Worlds of tasks over one Redis -/

/-- A Redis that answers every command, and clocks and ids that answer anything. -/
def redisServe (store : RedisStore) : (op : Op) → op.Reply → RedisStore → Prop
  | .redis command, reply, after => store.exec command = (reply, after)
  | _, _, after => after = store

def redisAnswer (store : RedisStore) : (op : Op) → op.Reply × RedisStore
  | .redis command => store.exec command
  | .endPipeline => (.ok (), store)
  | .now => (store.clock, store)
  | .uuid => ("00000000-0000-4000-8000-000000000000", store)
  | .saveMessage _ _ _ _ => (.ok (), store)
  | .getSessionHistory _ => (.ok (.array []), store)
  | .setupWorkspace _ _ => (.ok (), store)
  | .cleanupTask _ _ => (.ok (), store)
  | .persistAgentReturnState _ => (.ok (), store)
  | .hook _ => ((), store)
  | .process _ request => (match request with
      | .newAbortController => (0 : Nat)
      | .abort _ _ => ()
      | .abortReason _ => (none : Option String)
      | .trackExecution _ _ _ => ()
      | .executionOf _ => (none : Option String)
      | .controllerOf _ => (none : Option Nat)
      | .untrack _ _ => ()
      | .setLifecycle _ => ()
      | .fence => ()
      | .startLoop => ()
      | .evaluateHealth _ _ => true
      | .loopState => ⟨true, "active", "normal"⟩
      | .handOver _ _ _ => ()
      | .reach _ => (), store)

section Alone

variable {σ : Type} {memory : σ} {store : RedisStore}

theorem wp_redis_exact {serve : RedisStore → (op : Op) → op.Reply → RedisStore → Prop}
    (exact : ∀ before command reply after, serve before (.redis command) reply after →
      before.exec command = (reply, after))
    {command : RedisCommand} {post : Except JsError command.Reply → σ → RedisStore → Prop}
    (holds : post ((store.exec command).1.mapError redisError) memory (store.exec command).2) :
    (redis command : Proc σ _).wp (@Setting.alone effects _ serve fun _ _ => True) post memory
      store := by
  refine wp_redis ?_
  rintro later rfl -
  refine ⟨trivial, ?_⟩
  rintro reply after served - last rfl -
  rw [exact store command reply after served] at holds
  exact holds

theorem wp_redis_alone {command : RedisCommand}
    {post : Except JsError command.Reply → σ → RedisStore → Prop}
    (holds : post ((store.exec command).1.mapError redisError) memory (store.exec command).2) :
    (redis command : Proc σ _).wp (Setting.alone redisServe) post memory store :=
  wp_redis_exact (fun _ _ _ _ served => served) holds

theorem wp_plainId_alone {post : Except JsError String → σ → RedisStore → Prop}
    (holds : ∀ id, post (.ok id) memory store) :
    (plainId : Proc σ String).wp (Setting.alone redisServe) post memory store := by
  refine Task.wp_alone_bind (Task.wp_alone_await ?_)
  rintro id _ rfl
  exact Task.wp_alone_pure (holds _)

end Alone

theorem redisAnswer_serves (store : RedisStore) (op : Op) :
    redisServe store op (redisAnswer store op).1 (redisAnswer store op).2 := by
  cases op <;> rfl

end ByFramework
