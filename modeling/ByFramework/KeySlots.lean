import ByFramework.EmitterCore
import ByFramework.KeySpace
import ByFramework.Redis.HashTag
import ByFramework.RegistryCore
import ByFramework.SpanPayload

/-! The slots of the keys that are written together under the second schema. -/

namespace ByFramework

open Redis (hashTag tagsItself)

def keyOf : RedisCommand → Key
  | .get key | .set key _ _ _ | .del key | .existsKey key | .expire key _ | .hget key _
  | .hset key _ | .hgetall key | .hincrby key _ _ | .sadd key _ | .srem key _ | .smembers key
  | .sismember key _ | .zadd key _ _ | .zrem key _ | .zrangebyscore key _ _ _
  | .zremrangebyscore key _ _ | .xadd key _ | .xack key _ _ | .xgroupCreate key _
  | .xreadgroup key _ _ _ | .xpending key _ _ | .xclaim key _ _ _ _ => key

/-- The pipelines over the keys of a session, an agent type or a worker, with what varies. -/
inductive CommandBatch where
  | emitEvent (message : DataMessage) (timestamp : Int)
  | writeExecution (sessionId executionId : String) (record : ExecutionRecord)
  | writeMappedExecution (record : ExecutionRecord)
  | setWorkerAdminState (workerId lifecycle reason : String) (now : Int)
  | denyWorkerForType (agentType workerId : String)

def CommandBatch.commands : CommandBatch → List RedisCommand
  | .emitEvent message timestamp =>
      let streamName := Key.sessionDataStream message.sessionId
      [.xadd streamName (.event { message with timestamp := timestamp }),
        .expire streamName defaultSessionTtl]
  | .writeExecution sessionId executionId record =>
      [.hset (.sessionRegistry sessionId) [(execField executionId, .execution record)],
        .expire (.sessionRegistry sessionId) defaultSessionTtl]
  | .writeMappedExecution record =>
      let regKey := Key.sessionRegistry record.sessionId
      [.hset regKey [(execField record.executionId, .execution record)],
        .hset regKey [(msgMapField record.messageId, .text record.executionId)],
        .expire regKey defaultSessionTtl]
  | .setWorkerAdminState workerId lifecycle reason now =>
      [.hset (.workerAdminState workerId) [("lifecycle", .text lifecycle)],
        .hset (.workerAdminState workerId) [("reason", .text reason)],
        .hset (.workerAdminState workerId) [("updated_at", .number now)]]
  | .denyWorkerForType agentType workerId =>
      [.sadd (.agentTypeDenied agentType) workerId, .srem (.agentTypeMembers agentType) workerId]

section

variable {σ : Type}

theorem emitEvent_batch (message : DataMessage) :
    (emitEvent message : Proc σ PUnit) = (do
      let timestamp ← dateNow
      pipeline (CommandBatch.emitEvent message timestamp).commands) := rfl

theorem writeExecution_batch (sessionId executionId : String) (record : ExecutionRecord) :
    (writeExecution sessionId executionId record : Proc σ PUnit) =
      pipeline (CommandBatch.writeExecution sessionId executionId record).commands := rfl

theorem writeMappedExecution_batch (record : ExecutionRecord) :
    (writeMappedExecution record : Proc σ PUnit) =
      pipeline (CommandBatch.writeMappedExecution record).commands := rfl

theorem setWorkerAdminState_batch (workerId lifecycle reason : String) :
    (setWorkerAdminState workerId lifecycle reason : Proc σ PUnit) = (do
      let now ← dateNow
      pipeline (CommandBatch.setWorkerAdminState workerId lifecycle reason now).commands) := rfl

theorem denyWorkerForType_batch (agentType workerId : String) :
    (denyWorkerForType agentType workerId : Proc σ PUnit) =
      pipeline (CommandBatch.denyWorkerForType agentType workerId).commands := rfl

end

inductive Batch where
  | commands (batch : CommandBatch)
  | exportSpan (ttlSeconds : Nat) (span : TraceSpan) (existingStartTs : Int)

namespace Batch

def keys : Batch → List KeyName
  | .commands batch => batch.commands.map fun command => .used (keyOf command)
  | .exportSpan ttlSeconds span existingStartTs =>
      (exportSpanPipeline ttlSeconds span existingStartTs).map TraceCommand.key

/-- All keys have the same hash tag under the second schema. -/
def OneSlot (batch : Batch) : Prop :=
  ∀ left ∈ batch.keys, ∀ right ∈ batch.keys,
    hashTag (left.render .v2).toList = hashTag (right.render .v2).toList

/-- The id that only its tag keeps in one slot: that of a pipeline with two keys. -/
def taggedId : Batch → Option String
  | .commands (.denyWorkerForType agentType _) => some agentType
  | .exportSpan _ span _ => some span.traceId
  | _ => none

end Batch

theorem hashTag_eq_iff {id first firstEnding second secondEnding : List Char}
    (firstClean : '\x7b' ∉ first) (secondClean : '\x7b' ∉ second)
    (differ : first ++ '\x7b' :: (id ++ '\x7d' :: firstEnding) ≠
      second ++ '\x7b' :: (id ++ '\x7d' :: secondEnding)) :
    hashTag (first ++ '\x7b' :: (id ++ '\x7d' :: firstEnding)) =
        hashTag (second ++ '\x7b' :: (id ++ '\x7d' :: secondEnding)) ↔
      tagsItself id = true := by
  constructor
  · intro same
    by_contra bare
    rw [Bool.not_eq_true] at bare
    rw [Redis.hashTag_fill_bare firstClean bare, Redis.hashTag_fill_bare secondClean bare] at same
    exact differ same
  · intro tags
    rw [Redis.hashTag_fill firstClean tags, Redis.hashTag_fill secondClean tags]

theorem tagged_ne {left right : KeyName} (leftDigest : left.HasDigest)
    (rightDigest : right.HasDigest) (differ : left ≠ right) :
    (left.render .v2).toList ≠ (right.render .v2).toList := by
  intro same
  rcases (render_eq_iff .v2 leftDigest rightDigest).mp (String.toList_inj.mp same) with
    equal | ⟨legacy, _⟩
  · exact differ equal
  · cases legacy

theorem trace_tags_iff (traceId : String) :
    hashTag ((KeyName.traceMeta traceId).render .v2).toList =
        hashTag ((KeyName.traceSpans traceId).render .v2).toList ↔
      tagsItself traceId.toList = true := by
  have metaText : ((KeyName.traceMeta traceId).render .v2).toList =
      "byai_gateway:v2:trace:".toList ++ '\x7b' :: (traceId.toList ++ '\x7d' :: []) := by
    change ("byai_gateway:v2:" ++ ("trace:" ++ ("\x7b" ++ traceId ++ "\x7d"))).toList = _
    simp
  have spansText : ((KeyName.traceSpans traceId).render .v2).toList =
      "byai_gateway:v2:trace:spans:".toList ++ '\x7b' :: (traceId.toList ++ '\x7d' :: []) := by
    change ("byai_gateway:v2:" ++ ("trace:spans:" ++ ("\x7b" ++ traceId ++ "\x7d"))).toList = _
    simp
  have differ : ((KeyName.traceMeta traceId).render .v2).toList ≠
      ((KeyName.traceSpans traceId).render .v2).toList :=
    tagged_ne trivial trivial (by simp)
  rw [metaText, spansText] at differ
  rw [metaText, spansText]
  exact hashTag_eq_iff (by decide +kernel) (by decide +kernel) differ

theorem agent_type_tags_iff (agentType : String) :
    hashTag ((KeyName.used (.agentTypeDenied agentType)).render .v2).toList =
        hashTag ((KeyName.used (.agentTypeMembers agentType)).render .v2).toList ↔
      tagsItself agentType.toList = true := by
  have deniedText : ((KeyName.used (.agentTypeDenied agentType)).render .v2).toList =
      "byai_gateway:v2:registry:agent_type:".toList ++
        '\x7b' :: (agentType.toList ++ '\x7d' :: ":denied".toList) := by
    change ("byai_gateway:v2:" ++
      ("registry:agent_type:" ++ ("\x7b" ++ agentType ++ "\x7d") ++ ":denied")).toList = _
    simp
  have membersText : ((KeyName.used (.agentTypeMembers agentType)).render .v2).toList =
      "byai_gateway:v2:registry:agent_type:".toList ++
        '\x7b' :: (agentType.toList ++ '\x7d' :: ":workers".toList) := by
    change ("byai_gateway:v2:" ++
      ("registry:agent_type:" ++ ("\x7b" ++ agentType ++ "\x7d") ++ ":workers")).toList = _
    simp
  have differ : ((KeyName.used (.agentTypeDenied agentType)).render .v2).toList ≠
      ((KeyName.used (.agentTypeMembers agentType)).render .v2).toList :=
    tagged_ne trivial trivial (by simp)
  rw [deniedText, membersText] at differ
  rw [deniedText, membersText]
  exact hashTag_eq_iff (by decide +kernel) (by decide +kernel) differ

/-! ### The keys of a span -/

theorem mem_exportSpan_keys (ttlSeconds : Nat) (span : TraceSpan) (existingStartTs : Int)
    (key : KeyName) :
    key ∈ (Batch.exportSpan ttlSeconds span existingStartTs).keys ↔
      key = .traceMeta span.traceId ∨ key = .traceSpans span.traceId := by
  have root (condition : Prop) [Decidable condition] (name text : String) :
      ∀ command ∈ (if condition then
          [TraceCommand.hset (.traceMeta span.traceId) name (.text text)] else []),
        command.key = .traceMeta span.traceId := by
    intro command listed
    split at listed
    · rw [List.mem_singleton] at listed
      rw [listed]
      rfl
    · cases listed
  simp only [Batch.keys, exportSpanPipeline, payloadText_traceId, List.mem_map, List.mem_append]
  constructor
  · rintro ⟨command, ((((fixed | name) | agent) | message) | last), rfl⟩
    · simp only [List.mem_cons, List.not_mem_nil, or_false] at fixed
      rcases fixed with rfl | rfl | rfl <;> exact .inl rfl
    · exact .inl (root _ _ _ command name)
    · exact .inl (root _ _ _ command agent)
    · exact .inl (root _ _ _ command message)
    · simp only [List.mem_cons, List.not_mem_nil, or_false] at last
      rcases last with rfl | rfl | rfl | rfl | rfl
      · exact .inl rfl
      · exact .inl rfl
      · exact .inl rfl
      · exact .inr rfl
      · exact .inr rfl
  · rintro (rfl | rfl)
    · exact ⟨.expire (.traceMeta span.traceId) ttlSeconds, .inr (by simp), rfl⟩
    · exact ⟨.expire (.traceSpans span.traceId) ttlSeconds, .inr (by simp), rfl⟩

theorem tags_iff (id : String) :
    tagsItself id.toList = true ↔ id ≠ "" ∧ id.toList.head? ≠ some '\x7d' := by
  rw [Redis.tagsItself_iff, ne_eq, String.toList_eq_nil_iff]

theorem one_slot_pair {batch : Batch} {first second : KeyName}
    (keys : ∀ key, key ∈ batch.keys ↔ key = first ∨ key = second) :
    batch.OneSlot ↔
      hashTag (first.render .v2).toList = hashTag (second.render .v2).toList := by
  constructor
  · intro shared
    exact shared first ((keys first).mpr (.inl rfl)) second ((keys second).mpr (.inr rfl))
  · intro same left leftKey right rightKey
    rcases (keys left).mp leftKey with rfl | rfl
    · rcases (keys right).mp rightKey with rfl | rfl
      · rfl
      · exact same
    · rcases (keys right).mp rightKey with rfl | rfl
      · exact same.symm
      · rfl

/-- The keys of a pipeline are in one slot exactly if it has one key, or the id in its tag is
neither empty nor begins with the closing brace. -/
theorem one_slot_iff (batch : Batch) :
    batch.OneSlot ↔ ∀ id ∈ batch.taggedId, id ≠ "" ∧ id.toList.head? ≠ some '\x7d' := by
  have single {key : KeyName} (keys : ∀ other, other ∈ batch.keys ↔ other = key ∨ other = key) :
      batch.OneSlot := (one_slot_pair keys).mpr rfl
  rcases batch with (⟨message, timestamp⟩ | ⟨sessionId, executionId, record⟩ | ⟨record⟩ |
    ⟨workerId, lifecycle, reason, now⟩ | ⟨agentType, workerId⟩) |
    ⟨ttlSeconds, span, existingStartTs⟩
  · have slot := @single (.used (.sessionDataStream message.sessionId)) fun other => by
      simp [Batch.keys, CommandBatch.commands, keyOf]
    simp [Batch.taggedId, slot]
  · have slot := @single (.used (.sessionRegistry sessionId)) fun other => by
      simp [Batch.keys, CommandBatch.commands, keyOf]
    simp [Batch.taggedId, slot]
  · have slot := @single (.used (.sessionRegistry record.sessionId)) fun other => by
      simp [Batch.keys, CommandBatch.commands, keyOf]
    simp [Batch.taggedId, slot]
  · have slot := @single (.used (.workerAdminState workerId)) fun other => by
      simp [Batch.keys, CommandBatch.commands, keyOf]
    simp [Batch.taggedId, slot]
  · have keys (key : KeyName) :
        key ∈ (Batch.commands (.denyWorkerForType agentType workerId)).keys ↔
          key = .used (.agentTypeDenied agentType) ∨ key = .used (.agentTypeMembers agentType) := by
      simp [Batch.keys, CommandBatch.commands, keyOf]
    rw [one_slot_pair keys, agent_type_tags_iff, tags_iff]
    simp [Batch.taggedId]
  · rw [one_slot_pair (mem_exportSpan_keys ttlSeconds span existingStartTs), trace_tags_iff,
      tags_iff]
    simp [Batch.taggedId]

/-- A span without a trace id is exported under two tags. -/
theorem untraced_span_two_slots :
    ¬(Batch.exportSpan 604800 ⟨"", "span-1", "", "worker.execute", "worker", 1, 2, "OK", "", "", "",
      none, none, [], [], "", "", "", "", "", "", "", "", "", "", "", false, "", "", 0, 0, "",
      []⟩ 0).OneSlot := by
  intro shared
  have same := shared (.traceMeta "") (by decide +kernel) (.traceSpans "") (by decide +kernel)
  revert same
  decide +kernel

end ByFramework
