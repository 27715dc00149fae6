import ByFramework.Async.Schedule
import ByFramework.DiscoveryCore
import ByFramework.KeySpaceCore
import ByFramework.Redis.Store

/-!
Service discovery: the registry objects that list the instances of a service in Redis, and the
clients that cache what they read there. The calls on one object share its fields.
-/

namespace ByFramework

open Async Collections

structure ServiceInstanceData where
  id : String
  host : String
  port : Int := 0
  weight : Int := 1
  metadata : JsonObject := []
deriving DecidableEq

instance : Redis.Counting JsonValue where
  ofInt := .number
  toInt
    | .number value => some value
    | _ => none
  toInt_ofInt _ := rfl

abbrev DirectoryCommand := Redis.Command KeyName JsonValue

abbrev DirectoryStore := Redis.Store KeyName JsonValue

/-- A `DiscoveryClient`, by a name of its own, with what its constructor was given. -/
structure DirectoryClient where
  name : String
  cacheInterval : ℚ := 5
deriving DecidableEq

/-- What a client remembers: the lists it read, when it did, and whose turn is next. -/
structure DiscoveryCache where
  cache : InsertionMap String (List ServiceInstanceData) := .empty
  lastRefresh : InsertionMap String Int := .empty
  rrCounters : InsertionMap String Nat := .empty

structure CacheLook where
  now : Int
  last : Int
  has : Bool
deriving DecidableEq

namespace Directory

/-! ### Effects -/

/-- Redis commands, and what is done without an `await` on a registry object or a client. -/
inductive DirectoryOp where
  | redis (command : DirectoryCommand)
  | zrangeFrom (key : KeyName) (low : Int)
  | hmget (key : KeyName) (fields : List String)
  | hdel (key : KeyName) (field : String)
  | endPipeline
  | now
  | uuid
  | random
  | current (registry : String)
  | enlist (registry serviceName : String) (data : ServiceInstanceData)
  | dismiss (registry : String)
  | look (client : DirectoryClient) (serviceName : String)
  | keep (client : DirectoryClient) (serviceName : String) (instances : List ServiceInstanceData)
  | cached (client : DirectoryClient) (serviceName : String)
  | pickNext (client : DirectoryClient) (serviceName : String)
      (instances : List ServiceInstanceData)
  | clear (client : DirectoryClient)

@[reducible] def DirectoryOp.Reply : DirectoryOp → Type
  | .redis command => Except String command.Reply
  | .zrangeFrom _ _ => Except String (List String)
  | .hmget _ _ => Except String (List (Option JsonValue))
  | .hdel _ _ => Except String Nat
  | .endPipeline => Except JsError Unit
  | .now => Int
  | .uuid => String
  | .random => RandomDraw
  | .current _ => Option (String × ServiceInstanceData)
  | .look _ _ => CacheLook
  | .cached _ _ => List ServiceInstanceData
  | .pickNext _ _ _ => Option ServiceInstanceData
  | .enlist _ _ _ | .dismiss _ | .keep _ _ _ | .clear _ => Unit

abbrev directoryEffects : Signature := ⟨DirectoryOp, DirectoryOp.Reply⟩

abbrev DirectoryProc := Task directoryEffects JsError Unit

def await (op : DirectoryOp) : DirectoryProc op.Reply :=
  @Task.await directoryEffects JsError Unit op

def orThrow {α : Type} : Except String α → DirectoryProc α
  | .ok reply => pure reply
  | .error message => throw ⟨"ReplyError", message⟩

def redis (command : DirectoryCommand) : DirectoryProc command.Reply := do
  orThrow (← await (.redis command))

def toJSON (data : ServiceInstanceData) : JsonValue :=
  .object [("id", .string data.id), ("host", .string data.host), ("port", .number data.port),
    ("weight", .number data.weight), ("metadata", .object data.metadata)]

/-- Nothing for what `toJSON` does not write. -/
def fromJSON : JsonValue → Option ServiceInstanceData
  | .object fields =>
      match fields.lookup "id", fields.lookup "host", fields.lookup "port",
        fields.lookup "weight", fields.lookup "metadata" with
      | some (.string id), some (.string host), some (.number port), some (.number weight),
          some (.object metadata) => some ⟨id, host, port, weight, metadata⟩
      | _, _, _, _, _ => none
  | _ => none

theorem fromJSON_toJSON (data : ServiceInstanceData) : fromJSON (toJSON data) = some data := rfl

/-- What `register` is given, with the host it detects where none is named. -/
structure RegisterParams where
  serviceName : String
  host : String
  port : Int := 0
  weight : Int := 1
  metadata : JsonObject := []

def sendHeartbeat (registry : String) : DirectoryProc Unit := do
  match ← await (.current registry) with
  | none => pure ()
  | some (serviceName, data) =>
      let now ← await .now
      let _ ← redis (.zadd (.sdActiveInstances serviceName) data.id now)

def register (registry : String) (params : RegisterParams) : DirectoryProc Unit := do
  let id ← await .uuid
  let instanceId := params.serviceName ++ ":" ++ String.ofList (id.toList.take 8)
  let data : ServiceInstanceData :=
    ⟨instanceId, params.host, params.port, params.weight, params.metadata⟩
  await (.enlist registry params.serviceName data)
  let _ ← redis (.hset (.sdInstanceDetails params.serviceName) [(instanceId, toJSON data)])
  let _ ← redis (.sadd .sdServices params.serviceName)
  sendHeartbeat registry

def unregister (registry : String) : DirectoryProc Unit := do
  match ← await (.current registry) with
  | none => pure ()
  | some (serviceName, data) =>
      let _ ← await (.hdel (.sdInstanceDetails serviceName) data.id)
      let _ ← await (.redis (.zrem (.sdActiveInstances serviceName) data.id))
      match ← await .endPipeline with
      | .ok () => pure ()
      | .error error => throw error
  await (.dismiss registry)

def defaultHealthThresholdMs : Int := 30000

def refreshService (client : DirectoryClient) (serviceName : String) (healthThresholdMs : Int) :
    DirectoryProc Unit := do
  let nowMs ← await .now
  let minScore := nowMs - healthThresholdMs
  let instanceIds ← orThrow (← await (.zrangeFrom (.sdActiveInstances serviceName) minScore))
  if instanceIds.isEmpty then await (.keep client serviceName [])
  else
    let detailsRaw ← orThrow (← await (.hmget (.sdInstanceDetails serviceName) instanceIds))
    await (.keep client serviceName (detailsRaw.filterMap fun raw => raw.bind fromJSON))

/-- `now - last > this.cacheInterval`, with both times in milliseconds. -/
def isStale (client : DirectoryClient) (seen : CacheLook) : Bool :=
  1000 * client.cacheInterval < seen.now - seen.last

def getInstances (client : DirectoryClient) (serviceName : String) (forceRefresh : Bool := false)
    (healthThresholdMs : Int := defaultHealthThresholdMs) :
    DirectoryProc (List ServiceInstanceData) := do
  let seen ← await (.look client serviceName)
  if forceRefresh || isStale client seen || !seen.has then
    refreshService client serviceName healthThresholdMs
  await (.cached client serviceName)

def discover (client : DirectoryClient) (serviceName : String) (strategy : DiscoveryStrategy) :
    DirectoryProc (Option ServiceInstanceData) := do
  let instances ← getInstances client serviceName
  if instances.isEmpty then pure none
  else
    match strategy with
    | .random =>
        let drawn ← await .random
        pure instances[⌊drawn.val * instances.length⌋₊]?
    | .roundRobin => await (.pickNext client serviceName instances)

end Directory

structure Directory where
  store : DirectoryStore
  /-- `currentServiceName` and `currentInstance` of each registry object. -/
  registry : String → Option (String × ServiceInstanceData)
  caches : DirectoryClient → DiscoveryCache

namespace Directory

def fresh : Directory := ⟨Redis.Store.empty, fun _ => none, fun _ => {}⟩

def withRegistry (directory : Directory) (name : String)
    (current : Option (String × ServiceInstanceData)) : Directory :=
  { directory with registry := Function.update directory.registry name current }

def withCache (directory : Directory) (client : DirectoryClient) (cache : DiscoveryCache) :
    Directory :=
  { directory with caches := Function.update directory.caches client cache }

def answer (directory : Directory) : (op : DirectoryOp) → op.Reply × Directory
  | .redis command =>
      let executed := directory.store.exec command
      (executed.1, { directory with store := executed.2 })
  | .zrangeFrom key low =>
      (.ok (((directory.store.scored key).filter fun entry => low ≤ entry.2).map Prod.fst),
        directory)
  | .hmget key fields => (.ok (fields.map fun field => (directory.store.hash key).lookup field),
      directory)
  | .hdel key field =>
      (.ok (((directory.store.hash key).filter fun entry => entry.1 = field).length : Nat),
        { directory with store := { directory.store with
            hash := Function.update directory.store.hash key
              ((directory.store.hash key).filter fun entry => entry.1 ≠ field) } })
  | .endPipeline => (.ok (), directory)
  | .now => (directory.store.clock, directory)
  | .uuid => (toString directory.store.clock, directory)
  | .random => (⟨0, le_refl _, by norm_num⟩, directory)
  | .current name => ((directory.registry name).filter fun current => current.1 ≠ "", directory)
  | .enlist name serviceName data =>
      ((), directory.withRegistry name (some (serviceName, data)))
  | .dismiss name => ((), directory.withRegistry name none)
  | .look client serviceName =>
      let known := directory.caches client
      (⟨directory.store.clock, (known.lastRefresh.get? serviceName).getD 0,
        known.cache.has serviceName⟩, directory)
  | .keep client serviceName instances =>
      let known := directory.caches client
      ((), directory.withCache client { known with
        cache := known.cache.set serviceName instances
        lastRefresh := known.lastRefresh.set serviceName directory.store.clock })
  | .cached client serviceName =>
      (((directory.caches client).cache.get? serviceName).getD [], directory)
  | .pickNext client serviceName instances =>
      let known := directory.caches client
      let counter := (known.rrCounters.get? serviceName).getD 0
      (instances[counter % instances.length]?, directory.withCache client
        { known with rrCounters := known.rrCounters.set serviceName (counter + 1) })
  | .clear client => ((), directory.withCache client {})

/-- A command that may fail does so before or after Redis carried it out; ids and draws are
arbitrary. -/
def serve (mayFail : Prop) (directory : Directory) : (op : DirectoryOp) → op.Reply → Directory →
    Prop
  | .uuid, _, after => after = directory
  | .random, _, after => after = directory
  | .endPipeline, reply, after => after = directory ∧ (reply = .ok () ∨ mayFail)
  | .redis command, reply, after => directory.answer (.redis command) = (reply, after) ∨
      mayFail ∧ (∃ message, reply = .error message) ∧
        (after = directory ∨ after = (directory.answer (.redis command)).2)
  | .zrangeFrom key low, reply, after => directory.answer (.zrangeFrom key low) = (reply, after) ∨
      mayFail ∧ (∃ message, reply = .error message) ∧ after = directory
  | .hmget key fields, reply, after => directory.answer (.hmget key fields) = (reply, after) ∨
      mayFail ∧ (∃ message, reply = .error message) ∧ after = directory
  | .hdel key field, reply, after => directory.answer (.hdel key field) = (reply, after) ∨
      mayFail ∧ (∃ message, reply = .error message) ∧
        (after = directory ∨ after = (directory.answer (.hdel key field)).2)
  | op, reply, after => directory.answer op = (reply, after)

end Directory

/-! ### Calls -/

/-- The calls on registry objects and clients; heartbeats and refreshes also come from timers. -/
inductive DirectoryCall where
  | register (registry : String) (params : Directory.RegisterParams)
  | heartbeat (registry : String)
  | unregister (registry : String)
  | getInstances (client : DirectoryClient) (serviceName : String) (forceRefresh : Bool)
      (healthThresholdMs : Int)
  | discover (client : DirectoryClient) (serviceName : String) (strategy : DiscoveryStrategy)
  | refresh (client : DirectoryClient) (serviceName : String)
  | close (client : DirectoryClient)

namespace DirectoryCall

open Directory

def task : DirectoryCall → DirectoryProc (List ServiceInstanceData)
  | .register registry params => do
      Directory.register registry params
      pure []
  | .heartbeat registry => do
      sendHeartbeat registry
      pure []
  | .unregister registry => do
      Directory.unregister registry
      pure []
  | .getInstances client serviceName forceRefresh healthThresholdMs =>
      Directory.getInstances client serviceName forceRefresh healthThresholdMs
  | .discover client serviceName strategy => do
      let chosen ← Directory.discover client serviceName strategy
      pure chosen.toList
  | .refresh client serviceName => do
      refreshService client serviceName defaultHealthThresholdMs
      pure []
  | .close client => do
      Directory.await (.clear client)
      pure []

def program (call : DirectoryCall) :
    Prog directoryEffects (Except JsError (List ServiceInstanceData) × Unit) :=
  call.task.start ()

end DirectoryCall

structure InstanceReading where
  client : DirectoryClient
  serviceName : String
  forceRefresh : Bool
  healthThresholdMs : Int

def DirectoryCall.reading : DirectoryCall → Option InstanceReading
  | .getInstances client serviceName forceRefresh healthThresholdMs =>
      some ⟨client, serviceName, forceRefresh, healthThresholdMs⟩
  | .discover client serviceName _ =>
      some ⟨client, serviceName, false, Directory.defaultHealthThresholdMs⟩
  | .refresh client serviceName =>
      some ⟨client, serviceName, true, Directory.defaultHealthThresholdMs⟩
  | _ => none

/-- Calls interleave in any order, and any of them may be cut short; time passes between them. -/
def directoryWorld {ι : Type} (mayFail : Prop) (calls : ι → DirectoryCall) :
    World Directory.directoryEffects Directory ι
      (Except JsError (List ServiceInstanceData) × Unit) where
  serve := Directory.serve mayFail
  start directory index program after := program = (calls index).program ∧ after = directory
  stop directory _ _ after := after = directory
  lapse directory after := ∃ now, directory.store.clock ≤ now ∧
    after = { directory with store := directory.store.advance now }

end ByFramework
