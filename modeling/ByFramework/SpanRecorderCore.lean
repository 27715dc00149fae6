import Mathlib.Data.Rat.Floor
import ByFramework.Collections.InsertionMap
import ByFramework.Hash.Md5
import ByFramework.KeySpaceCore
import ByFramework.Text.Hex

/-! Recording trace spans: the exporter over Redis, and the recorder in front of the exporters. -/

namespace ByFramework

open Collections

/-! ### The exporter -/

/-- A missing optional text is the empty one. -/
structure TraceSpan where
  traceId : String
  spanId : String
  parentSpanId : String
  operation : String
  component : String
  startTs : Int
  endTs : Int
  status : String
  name : String := ""
  kind : String := ""
  source : String := ""
  input : Option JsonValue := none
  output : Option JsonValue := none
  tokens : JsonObject := []
  cost : JsonObject := []
  sessionId : String := ""
  executionId : String := ""
  messageId : String := ""
  parentMessageId : String := ""
  workerId : String := ""
  sourceAgentType : String := ""
  targetAgentType : String := ""
  errorType : String := ""
  errorMessage : String := ""
  errorCode : String := ""
  failedStage : String := ""
  retryable : Bool := false
  routePolicy : String := ""
  routeStatus : String := ""
  queueWaitMs : Int := 0
  chunkCount : Int := 0
  eventType : String := ""
  metadata : JsonObject := []

/-- A field that `payload` carries only when it has entries. -/
def filledField (name : String) (fields : JsonObject) : JsonObject :=
  if fields.isEmpty then [] else [(name, .object fields)]

def presentField (name : String) (value : Option JsonValue) : JsonObject :=
  match value with
  | none | some .null => []
  | some value => [(name, value)]

def isCompact : JsonValue → Bool
  | .null => false
  | .string text => text ≠ ""
  | _ => true

def payloadFields (span : TraceSpan) : JsonObject :=
  let endTs := max span.startTs span.endTs
  [("trace_id", .string span.traceId), ("span_id", .string span.spanId),
    ("parent_span_id", .string span.parentSpanId), ("operation", .string span.operation),
    ("component", .string span.component), ("start_ts", .number span.startTs),
    ("end_ts", .number endTs), ("duration_ms", .number (max 0 (endTs - span.startTs))),
    ("status", .string span.status),
    ("name", .string (if span.name = "" then span.operation else span.name)),
    ("kind", .string span.kind),
    ("source", .string (if span.source = "" then "redis" else span.source)),
    ("session_id", .string span.sessionId), ("execution_id", .string span.executionId),
    ("message_id", .string span.messageId),
    ("parent_message_id", .string span.parentMessageId), ("worker_id", .string span.workerId),
    ("source_agent_type", .string span.sourceAgentType),
    ("target_agent_type", .string span.targetAgentType),
    ("error_type", .string span.errorType), ("error_message", .string span.errorMessage),
    ("error_code", .string span.errorCode), ("failed_stage", .string span.failedStage),
    ("retryable", .bool span.retryable), ("route_policy", .string span.routePolicy),
    ("route_status", .string span.routeStatus), ("queue_wait_ms", .number span.queueWaitMs),
    ("chunk_count", .number span.chunkCount), ("event_type", .string span.eventType)]

def traceSpanToPayload (span : TraceSpan) : JsonObject :=
  let payload := payloadFields span ++
    presentField "input" span.input ++ presentField "output" span.output ++
    filledField "tokens" span.tokens ++ filledField "cost" span.cost ++
    filledField "metadata" span.metadata
  payload.filter fun field => isCompact field.2

/-- `String(payload[name] || '')` of a text field -/
def payloadText (payload : JsonObject) (name : String) : String :=
  match payload.lookup name with
  | some (.string text) => text
  | _ => ""

/-- `Number(payload[name] || other)` of a number field -/
def payloadNumber (payload : JsonObject) (name : String) (other : Int) : Int :=
  match payload.lookup name with
  | some (.number value) => if value = 0 then other else value
  | _ => other

/-- What the exporter stores: a field of the metadata, or a serialized span. -/
inductive SpanValue where
  | text (value : String)
  | number (value : Int)
  | span (payload : JsonObject)

def startsWith (text heading : String) : Bool := heading.toList.isPrefixOf text.toList

inductive TraceCommand where
  | hset (key : KeyName) (field : String) (value : SpanValue)
  | expire (key : KeyName) (ttlSeconds : Nat)
  | rpush (key : KeyName) (value : SpanValue)

def TraceCommand.key : TraceCommand → KeyName
  | .hset key _ _ | .expire key _ | .rpush key _ => key

/-- The commands that `exportSpan` sends in one pipeline, once it has read the start of the trace
as far as it is known (0 when it is not, or could not be read). -/
def exportSpanPipeline (ttlSeconds : Nat) (span : TraceSpan) (existingStartTs : Int) :
    List TraceCommand :=
  let payload := traceSpanToPayload span
  let traceId := payloadText payload "trace_id"
  let startTs := payloadNumber payload "start_ts" 0
  let endTs := payloadNumber payload "end_ts" startTs
  let metaKey := KeyName.traceMeta traceId
  let spansKey := KeyName.traceSpans traceId
  let traceStartTs :=
    if 0 < existingStartTs ∧ 0 < startTs then min existingStartTs startTs
    else if existingStartTs = 0 then startTs else existingStartTs
  let updatedAt := max existingStartTs endTs
  let dispatched := startsWith (payloadText payload "operation") "client.dispatch"
  let root (name field : String) : List TraceCommand :=
    if payloadText payload field ≠ "" ∧ dispatched then
      [.hset metaKey name (.text (payloadText payload field))]
    else []
  [.hset metaKey "trace_id" (.text traceId),
    .hset metaKey "session_id" (.text (payloadText payload "session_id")),
    .hset metaKey "status" (.text (payloadText payload "status"))] ++
  root "name" "name" ++ root "root_agent_type" "target_agent_type" ++
  root "root_message_id" "message_id" ++
  [.hset metaKey "start_ts" (.number traceStartTs),
    .hset metaKey "updated_at" (.number updatedAt),
    .expire metaKey ttlSeconds,
    .rpush spansKey (.span payload),
    .expire spansKey ttlSeconds]

/-- What the traces of a Redis server hold: hashes, lists and scored members. -/
structure TraceStore where
  hashes : KeyName → String → Option SpanValue
  lists : KeyName → List SpanValue
  indexes : KeyName → String → Option Int

def TraceStore.empty : TraceStore := ⟨fun _ _ => none, fun _ => [], fun _ _ => none⟩

def TraceStore.apply (store : TraceStore) : TraceCommand → TraceStore
  | .hset key field value =>
      { store with hashes := fun other name =>
          if other = key ∧ name = field then some value else store.hashes other name }
  | .expire _ _ => store
  | .rpush key value =>
      { store with lists := fun other =>
          if other = key then store.lists key ++ [value] else store.lists other }

/-- `parseInt(raw || '0', 10) || 0` of the stored start -/
def TraceStore.existingStartTs (store : TraceStore) (metaKey : KeyName) : Int :=
  match store.hashes metaKey "start_ts" with
  | some (.number value) => value
  | _ => 0

def TraceStore.writeTraceIndex (store : TraceStore) (indexKey : KeyName) (traceId : String)
    (score : Int) : TraceStore :=
  { store with indexes := fun other name =>
      if other = indexKey ∧ name = traceId then some score else store.indexes other name }

def TraceStore.indexField (store : TraceStore) (payload : JsonObject) (field : String)
    (key : String → KeyName) : TraceStore :=
  if payloadText payload field = "" then store
  else store.writeTraceIndex (key (payloadText payload field)) (payloadText payload "trace_id")
    (payloadNumber payload "start_ts" 0)

/-- Export of one span, with every command answered. -/
def exportSpan (ttlSeconds : Nat) (store : TraceStore) (span : TraceSpan) : TraceStore :=
  let payload := traceSpanToPayload span
  let metaKey := KeyName.traceMeta (payloadText payload "trace_id")
  let pipeline := exportSpanPipeline ttlSeconds span (store.existingStartTs metaKey)
  (((pipeline.foldl TraceStore.apply store).indexField payload "session_id"
    .traceIndexSession).indexField payload "worker_id" .traceIndexWorker).indexField payload
      "target_agent_type" .traceIndexAgent

/-! ### The recorder -/

/-- The configuration, as far as the recorder reads it. -/
structure ObservabilityConfig where
  enabled : Bool
  redisEnabled : Bool
  ttlSeconds : Int
  sampleRate : ℚ
  maxSpansPerTrace : ℚ

inductive SpanExporter where
  | redis (ttlSeconds : Int)
  | given (index : Nat)
deriving DecidableEq, Repr

structure SpanRecorder where
  config : ObservabilityConfig
  exporters : List SpanExporter
  spansByTrace : InsertionMap String Nat
  trackingMaxSize : ℚ

namespace SpanRecorder

/-- `new SpanRecorder(redis, { exporters, config })` -/
def construct (exporters : Option (List SpanExporter)) (config : ObservabilityConfig) :
    SpanRecorder where
  config := config
  exporters :=
    if ¬ config.enabled then []
    else match exporters with
      | some exporters => exporters
      | none => if config.redisEnabled then [.redis (max 1 config.ttlSeconds)] else []
  spansByTrace := .empty
  trackingMaxSize := min 10000 (config.maxSpansPerTrace * 20)

/-- The first 32 bits of the trace id's digest. -/
def sampleBucket (traceId : String) : Nat :=
  (Text.hexNumber ((Hash.md5Hex traceId).toList.take 8)).getD 0

/-- Evict the oldest half when the tracking map is full. -/
def evicted (recorder : SpanRecorder) : InsertionMap String Nat :=
  if recorder.trackingMaxSize ≤ recorder.spansByTrace.size then
    recorder.spansByTrace.dropFirst (recorder.spansByTrace.size / 2)
  else recorder.spansByTrace

structure Decision where
  ok : Bool
  reason : String
deriving DecidableEq, Repr

/-- `rounded` is the rounding of a quotient to a number that the machine has. -/
def shouldRecord (rounded : ℚ → ℚ) (recorder : SpanRecorder) (span : TraceSpan) :
    Decision × SpanRecorder :=
  let config := recorder.config
  if recorder.exporters = [] then (⟨false, "disabled"⟩, recorder)
  else if config.sampleRate ≤ 0 then (⟨false, "sampled"⟩, recorder)
  else if config.sampleRate < 1 ∧
      config.sampleRate ≤ rounded (sampleBucket span.traceId / 0xFFFFFFFF) then
    (⟨false, "sampled"⟩, recorder)
  else
    let current := (recorder.spansByTrace.get? span.traceId).getD 0
    if config.maxSpansPerTrace ≤ current then (⟨false, "trace_span_limit"⟩, recorder)
    else
      (⟨true, ""⟩,
        { recorder with spansByTrace := recorder.evicted.set span.traceId (current + 1) })

/-- The exports that are tried, each with the exporter's place. A failing one changes nothing. -/
def recordSpan (rounded : ℚ → ℚ) (recorder : SpanRecorder) (span : TraceSpan) :
    List (Nat × TraceSpan) × SpanRecorder :=
  let (decision, after) := recorder.shouldRecord rounded span
  if decision.ok then ((List.range recorder.exporters.length).map (·, span), after)
  else ([], after)

end SpanRecorder

end ByFramework
