import ByFramework.Worker

/-! The replies that an observer of one message counts, and the steps that send none or one. -/

namespace ByFramework

open Async

/-- `origin` is the header that is replied to; `answered` is set once the task is complete. -/
structure ReplyLog where
  replies : Nat := 0
  total : Option Value := none
  answered : Bool := false
  groupExpired : Bool := false
  joinedEarly : Bool := false
  failsLate : Bool := false

def isReplyTo (origin : MessageHeader) (stream : Key) (reply : ResumeCommand) : Bool :=
  stream = .ctrlStream origin.sourceAgentType &&
    (origin.parentMessageId = "" || reply.header.messageId = origin.parentMessageId) &&
    reply.header.parentMessageId = origin.messageId

namespace ReplyLog

def fails (log : ReplyLog) : ReplyLog :=
  { log with failsLate := log.failsLate || log.answered }

def readsGroup (log : ReplyLog) (field : String) (found : Option Value) : ReplyLog :=
  if field = taskGroupFieldTotal then
    { log with total := found, groupExpired := log.groupExpired || found.isNone }
  else if field = taskGroupFieldAborted then
    { log with joinedEarly := log.joinedEarly || found.any Value.truthy }
  else log

def counts (log : ReplyLog) (completed : Int) : ReplyLog :=
  { log with joinedEarly :=
      log.joinedEarly || belowParsed completed (log.total.bind Value.parseInt) }

def appends (origin : MessageHeader) (log : ReplyLog) (stream : Key) (reply : ResumeCommand) :
    ReplyLog :=
  if isReplyTo origin stream reply then { log with replies := log.replies + 1 } else log

def note (origin : MessageHeader) (log : ReplyLog) : (op : Op) → op.Reply → ReplyLog
  | .redis (.xadd stream (.command (.resume reply))), .ok _ => log.appends origin stream reply
  | .redis (.hget (.taskGroup _) field), .ok found => log.readsGroup field found
  | .redis (.hincrby (.taskGroup _) _ _), .ok completed => log.counts completed
  | .hook name, _ =>
      if name = "onTaskComplete" then { log with answered := decide (0 < log.replies) } else log
  | .endPipeline, .error _ => log.fails
  | .saveMessage _ _ _ _, .error _ => log.fails
  | _, _ => log

end ReplyLog

def callerRead (field : String) : Except String (Option Value) → Prop
  | .ok none => True
  | .ok (some (.text _)) => isExecField field = false
  | .ok (some (.execution record)) => record.cancelRequested = false
  | _ => False

/-- Control-stream writes and the clean-up succeed, the caller is not asked to cancel, and a
fresh id is not that of the message; anything else may fail. -/
def replyWeather (origin : MessageHeader) : (op : Op) → op.Reply → Prop
  | .redis (.xadd (.ctrlStream _) (.command (.resume _))), reply => ∃ id, reply = .ok id
  | .redis (.hget (.sessionRegistry _) field), reply => callerRead field reply
  | .cleanupTask _ _, reply => reply = .ok ()
  | .uuid, id => messageIdOf id ≠ origin.messageId
  | _, _ => True

def replySetting (origin : MessageHeader) : Setting effects ReplyLog :=
  .alone fun log op reply after => replyWeather origin op reply ∧ after = log.note origin op reply

/-! ### Steps that send no reply -/

def withoutReply (origin : MessageHeader) : Contract effects where
  allowed op := ∀ (log : ReplyLog) (reply : op.Reply), log.answered = false →
    replyWeather origin op reply → log.note origin op reply = log
  expected op reply := replyWeather origin op reply

section Quiet

variable {σ α : Type} {origin : MessageHeader} {inv : σ → Prop} {memory : σ} {log : ReplyLog}

theorem fails_of_unanswered (unanswered : log.answered = false) : log.fails = log := by
  cases log
  simp_all [ReplyLog.fails]

theorem wp_withoutReply {task : Proc σ α} (uses : task.Uses (withoutReply origin) inv)
    (held : inv memory) (unanswered : log.answered = false) :
    task.wp (replySetting origin) (fun _ after later => inv after ∧ later = log) memory log := by
  refine Task.wp_of_uses ?_ ?_ uses held rfl
  · rintro before later same rfl -
    exact same
  · rintro before op rfl - permitted
    refine ⟨trivial, ?_⟩
    rintro reply after ⟨expected, rfl⟩ -
    exact ⟨expected, permitted before reply unanswered expected⟩

theorem withoutReply_command {command : RedisCommand}
    (called : contextCommand command = true) : (withoutReply origin).allowed (.redis command) := by
  intro log reply _ _
  cases command with
  | xadd stream value =>
      cases value with
      | command sent =>
          cases sent with
          | resume sent => simp [contextCommand, backgroundCommand] at called
          | _ => rfl
      | _ => rfl
  | hget key field =>
      cases key with
      | taskGroup groupId => simp [contextCommand, backgroundCommand] at called
      | _ => rfl
  | hincrby key field amount => simp [contextCommand, backgroundCommand] at called
  | _ => rfl

theorem withoutReply_handler (op : Op) (called : op.ofHandler = true) :
    (withoutReply origin).allowed op := by
  intro log reply unanswered weather
  cases op with
  | redis command => exact withoutReply_command called log reply unanswered weather
  | endPipeline =>
      cases reply with
      | ok done => rfl
      | error error => exact fails_of_unanswered unanswered
  | saveMessage sessionId role content metadata =>
      cases reply with
      | ok done => rfl
      | error error => exact fails_of_unanswered unanswered
  | hook name =>
      have other : name ≠ "onTaskComplete" := by
        rintro rfl
        simp [Op.ofHandler, callHooks] at called
      simp only [ReplyLog.note, other, if_false]
  | _ => rfl

end Quiet

def silent (origin : MessageHeader) : Contract effects where
  allowed op := ∀ (log : ReplyLog) (reply : op.Reply), replyWeather origin op reply →
    log.note origin op reply = log
  expected op reply := replyWeather origin op reply

section Silent

variable {σ α β : Type} {origin : MessageHeader} {inv : σ → Prop} {memory : σ} {log : ReplyLog}

theorem wp_silent {task : Proc σ α} (uses : task.Uses (silent origin) inv) (held : inv memory) :
    task.wp (replySetting origin) (fun _ after later => inv after ∧ later = log) memory log := by
  refine Task.wp_of_uses ?_ ?_ uses held rfl
  · rintro before later same rfl -
    exact same
  · rintro before op rfl - permitted
    refine ⟨trivial, ?_⟩
    rintro reply after ⟨expected, rfl⟩ -
    exact ⟨expected, permitted before reply expected⟩

theorem wp_redis_log {command : RedisCommand}
    {post : Except JsError command.Reply → σ → ReplyLog → Prop}
    (holds : ∀ reply, replyWeather origin (.redis command) reply →
      post (reply.mapError redisError) memory (log.note origin (.redis command) reply)) :
    (redis command : Proc σ _).wp (replySetting origin) post memory log := by
  refine wp_redis ?_
  rintro later rfl -
  refine ⟨trivial, ?_⟩
  rintro reply after ⟨expected, rfl⟩ - last rfl -
  exact holds reply expected

theorem wp_hook_log {name : String} {post : Except JsError PUnit → σ → ReplyLog → Prop}
    (holds : post (.ok ⟨⟩) memory (log.note origin (.hook name) ⟨⟩)) :
    (hook name : Proc σ PUnit).wp (replySetting origin) post memory log := by
  refine Task.wp_alone_await ?_
  rintro reply after ⟨-, rfl⟩
  exact holds

end Silent

def Emits (origin : MessageHeader) {σ α : Type} (inv : σ → Prop) (task : Proc σ α) : Prop :=
  ∀ memory log, inv memory →
    task.wp (replySetting origin) (fun outcome after later => inv after ∧ later =
      match outcome with
      | .ok _ => log
      | .error _ => log.fails) memory log

section Emission

variable {σ α β : Type} {origin : MessageHeader} {inv : σ → Prop}

theorem emits_pure (value : α) : Emits origin inv (pure value : Proc σ α) :=
  fun _ _ held => Task.wp_alone_pure ⟨held, rfl⟩

theorem emits_bind {task : Proc σ α} {next : α → Proc σ β} (first : Emits origin inv task)
    (rest : ∀ value, Emits origin inv (next value)) : Emits origin inv (task >>= next) := by
  intro memory log held
  refine Task.wp_alone_bind (Task.wp_mono (first memory log held) ?_)
  rintro outcome after later - ⟨kept, same⟩
  cases outcome with
  | ok value =>
      subst later
      exact rest value after log kept
  | error error => exact ⟨kept, same⟩

theorem emits_get_bind {next : σ → Proc σ β}
    (rest : ∀ memory, inv memory → Emits origin inv (next memory)) :
    Emits origin inv (get >>= next) :=
  fun memory log held =>
    Task.wp_alone_bind (Task.wp_alone_get (rest memory held memory log held))

theorem emits_modify {change : σ → σ} (kept : ∀ memory, inv memory → inv (change memory)) :
    Emits origin inv (modify change : Proc σ PUnit) :=
  fun memory _ held => Task.wp_alone_modify ⟨kept memory held, rfl⟩

theorem emits_when {condition : Prop} [Decidable condition] {task : Proc σ PUnit}
    (taken : condition → Emits origin inv task) : Emits origin inv (Task.when condition task) := by
  unfold Task.when
  split
  · exact taken ‹_›
  · exact emits_pure _

theorem emits_await {op : Op} (permitted : (silent origin).allowed op) :
    Emits origin inv (await op : Proc σ op.Reply) := by
  intro memory log held
  refine Task.wp_alone_await ?_
  rintro reply after ⟨expected, rfl⟩
  exact ⟨held, permitted log reply expected⟩

theorem emits_forEach {Item : Type} {step : Item → Proc σ PUnit} (items : List Item)
    (round : ∀ item ∈ items, Emits origin inv (step item)) :
    Emits origin inv (Task.forEach items step) := by
  induction items with
  | nil => exact emits_pure _
  | cons item rest ih =>
      exact emits_bind (round item (by simp)) fun _ => ih fun next inRest =>
        round next (by simp [inRest])

theorem wp_orThrow_log {outcome : Except JsError α} {memory : σ} {log later : ReplyLog}
    (held : inv memory) (noted : later = match outcome with
      | .ok _ => log
      | .error _ => log.fails) :
    (orThrow outcome : Proc σ α).wp (replySetting origin) (fun outcome after last =>
      inv after ∧ last = match outcome with
        | .ok _ => log
        | .error _ => log.fails) memory later := by
  cases outcome with
  | ok value => exact Task.wp_alone_pure ⟨held, noted⟩
  | error error => exact Task.wp_alone_throw ⟨held, noted⟩

theorem emits_pipeline {commands : List RedisCommand}
    (permitted : ∀ command ∈ commands, (silent origin).allowed (.redis command)) :
    Emits origin inv (pipeline commands : Proc σ PUnit) := by
  refine emits_bind (emits_forEach commands fun command listed => ?_) fun _ memory log held => ?_
  · exact emits_bind (emits_await (permitted command listed)) fun _ => emits_pure _
  · refine Task.wp_alone_bind (Task.wp_alone_await ?_)
    rintro reply after ⟨-, rfl⟩
    refine wp_orThrow_log held ?_
    cases reply <;> rfl

theorem emits_saveMessage (sessionId role : String) (content : JsonValue) (metadata : JsonObject) :
    Emits origin inv (saveMessage sessionId role content metadata : Proc σ PUnit) := by
  intro memory log held
  refine Task.wp_alone_bind (Task.wp_alone_await ?_)
  rintro reply after ⟨-, rfl⟩
  refine wp_orThrow_log held ?_
  cases reply <;> rfl

theorem emits_emitEvent (message : DataMessage) :
    Emits origin inv (emitEvent message : Proc σ PUnit) := by
  refine emits_bind (emits_await fun _ _ _ => rfl) fun timestamp => emits_pipeline ?_
  intro command listed log reply _
  simp only [List.mem_cons, List.not_mem_nil, or_false] at listed
  rcases listed with rfl | rfl
  · cases reply <;> rfl
  · cases reply <;> rfl

theorem emits_emitLayout (message : DataMessage) (params : SseLayoutParams) :
    Emits origin inv (emitLayout message params : Proc σ PUnit) := by
  have layouts : Emits origin inv (buildSseLayout params : Proc σ JsonObject) :=
    emits_bind (emits_bind (emits_await fun _ _ _ => rfl) fun _ => emits_pure _) fun _ =>
      emits_bind (emits_await fun _ _ _ => rfl) fun _ => emits_pure _
  exact emits_bind layouts fun _ => emits_emitEvent _

theorem emits_focus {τ : Type} {view : σ → τ} {update : σ → τ → σ} {inner : τ → Prop}
    {task : Proc τ α} (emits : Emits origin inner task)
    (shows : ∀ memory, inv memory → inner (view memory))
    (writes : ∀ memory last, inv memory → inner last → inv (update memory last)) :
    Emits origin inv (Task.focus view update task) := by
  intro memory log held
  refine Task.wp_focus (Task.wp_mono (emits (view memory) log (shows memory held)) ?_) trivial
  rintro outcome after later - ⟨kept, same⟩
  exact ⟨writes memory after held kept, same⟩

end Emission

section Streams

variable {origin : MessageHeader} {suspended : Bool}

def SuspendedIs (suspended : Bool) (context : AgentContext) : Prop :=
  context.isSuspended = suspended

theorem emits_flushToHistory :
    Emits origin (SuspendedIs suspended) AgentContext.flushToHistory := by
  refine emits_get_bind fun context held => ?_
  split
  · exact emits_pure _
  · exact emits_bind (emits_saveMessage _ _ _ _) fun _ => emits_modify fun _ kept => kept

theorem emits_emitChunk (content eventType : String) :
    Emits origin (SuspendedIs suspended) (AgentContext.emitChunk content eventType) := by
  refine emits_bind (emits_modify fun context held => ?_) fun _ => ?_
  · split
    · exact held
    · exact held
  · refine emits_get_bind fun context held => ?_
    refine emits_bind (emits_emitLayout _ _) fun _ => ?_
    exact emits_when fun _ => emits_bind (emits_modify fun _ kept => kept)
      fun _ => emits_flushToHistory

theorem emits_onContext {α : Type} {task : Proc AgentContext α}
    (emits : Emits origin (SuspendedIs suspended) task) :
    Emits origin (fun run : MessageRun => SuspendedIs suspended run.context)
      (MessageRun.onContext task) :=
  emits_focus emits (fun _ held => held) fun _ _ _ kept => kept

theorem emits_emitFinalAnswer (message : Option String) :
    Emits origin (fun run : MessageRun => SuspendedIs suspended run.context)
      (GatewayWorker.emitFinalAnswer message) := by
  refine emits_get_bind fun run held => ?_
  cases message with
  | none => exact emits_pure _
  | some text => exact emits_when fun _ => emits_onContext (emits_emitChunk _ _)

theorem emits_endStream (command : GatewayCommand) (options : HandleMessageOptions)
    (status : String) :
    Emits origin (fun run : MessageRun => SuspendedIs suspended run.context)
      (GatewayWorker.endStream command options status) := by
  refine emits_get_bind fun run held => ?_
  split
  · exact emits_when fun _ => emits_onContext (emits_emitChunk _ _)
  · exact emits_onContext emits_flushToHistory

theorem emits_endFailedStream (command : GatewayCommand) (options : HandleMessageOptions) :
    Emits origin (fun run : MessageRun => SuspendedIs suspended run.context)
      (GatewayWorker.endFailedStream command options) := by
  refine emits_get_bind fun run held => ?_
  split
  · exact emits_onContext (emits_emitChunk _ _)
  · exact emits_onContext emits_flushToHistory

end Streams

/-! ### Sending the reply -/

section Sending

variable {σ : Type} {origin : MessageHeader} {memory : σ} {log : ReplyLog}

def ReplyLog.replied (log : ReplyLog) : ReplyLog := { log with replies := log.replies + 1 }

theorem persistSingleCallResult_log (header : MessageHeader) (callback : ResumeCommand) :
    (persistSingleCallResult header callback : Proc σ PUnit).wp (replySetting origin)
      (fun outcome after later => outcome = .ok ⟨⟩ ∧ after = memory ∧ later = log) memory log := by
  unfold persistSingleCallResult
  split
  · exact Task.wp_alone_pure ⟨rfl, rfl, rfl⟩
  · have stores : (do
        let resultsKey := Key.taskGroupResults (singleCallTaskGroupId header.messageId)
        let _ ← redis (.hset resultsKey [(header.messageId, .result (resultData callback))])
        let _ ← redis (.expire resultsKey taskGroupTtlSeconds) : Proc σ PUnit).Uses
        (silent origin) (· = memory) := by
      refine uses_redis_bind ?_ fun _ _ => uses_redis_bind ?_ fun _ _ => Task.uses_pure _
      · intro log reply _
        cases reply <;> rfl
      · intro log reply _
        cases reply <;> rfl
    refine Task.wp_failSoft (Task.wp_mono (wp_silent stores rfl) ?_) trivial
    rintro outcome after later - ⟨rfl, rfl⟩ last rfl -
    exact ⟨rfl, rfl, rfl⟩

theorem xaddWithRetry_log {agentType : String} {callback : ResumeCommand}
    (replies : isReplyTo origin (.ctrlStream agentType) callback = true) (retries : Nat) :
    (xaddWithRetry (.ctrlStream agentType) callback retries : Proc σ PUnit).wp
      (replySetting origin) (fun outcome after later => outcome = .ok ⟨⟩ ∧ after = memory ∧
        later = log.replied) memory log := by
  have appended : (do
      let _ ← redis (.xadd (.ctrlStream agentType) (.command (.resume callback))) :
      Proc σ PUnit).wp (replySetting origin) (fun outcome after later => outcome = .ok ⟨⟩ ∧
        after = memory ∧ later = log.replied) memory log := by
    refine Task.wp_alone_bind (wp_redis_log ?_)
    rintro reply ⟨id, rfl⟩
    refine Task.wp_alone_pure ⟨rfl, rfl, ?_⟩
    simp only [ReplyLog.note, ReplyLog.appends, replies, if_true, ReplyLog.replied]
  cases retries with
  | zero => exact appended
  | succ retries =>
      refine Task.wp_alone_tryCatch (Task.wp_mono appended ?_)
      rintro outcome after later - ⟨rfl, same, noted⟩
      exact ⟨rfl, same, noted⟩

theorem enqueueAgentReturn_log (workerId status : String) (agentReturn : AgentReturn)
    (owed : origin.sourceAgentType ≠ "") :
    (enqueueAgentReturn workerId origin status agentReturn : Proc σ PUnit).wp
      (replySetting origin) (fun outcome after later => after = memory ∧ match outcome with
        | .ok _ => later = log.replied
        | .error _ => later = log ∧ status = "") memory log := by
  have named : (if origin.parentMessageId = "" then generateMessageId
      else pure origin.parentMessageId : Proc σ String).wp (replySetting origin)
      (fun outcome after later => after = memory ∧ later = log ∧ ∃ messageId,
        outcome = .ok messageId ∧
          (origin.parentMessageId = "" ∨ messageId = origin.parentMessageId)) memory log := by
    split
    · refine Task.wp_alone_bind (Task.wp_alone_await ?_)
      rintro id after ⟨-, rfl⟩
      exact Task.wp_alone_pure ⟨rfl, rfl, _, rfl, .inl ‹_›⟩
    · exact Task.wp_alone_pure ⟨rfl, rfl, _, rfl, .inr rfl⟩
  unfold enqueueAgentReturn
  rw [if_neg owed]
  refine Task.wp_alone_bind (Task.wp_mono named ?_)
  rintro outcome after later - ⟨rfl, rfl, messageId, rfl, caller⟩
  dsimp only
  cases made : ResumeCommand.make
      (callbackHeader origin workerId messageId agentReturn.metadata) agentReturn.content status
      agentReturn.replyData agentReturn.extraPayload with
  | error error =>
      have blank : status = "" := by
        simp only [ResumeCommand.make] at made
        split at made
        · cases made
        · rename_i empty
          exact Decidable.not_not.mp (not_or.mp empty).1
      exact Task.wp_alone_bind (Task.wp_alone_throw ⟨rfl, rfl, blank⟩)
  | ok callback =>
      have header := ResumeCommand.make_header made
      have replies : isReplyTo origin (.ctrlStream callback.header.targetAgentType) callback =
          true := by
        rw [isReplyTo, header]
        rcases caller with root | same
        · simp [callbackHeader, root]
        · simp [callbackHeader, same]
      refine Task.wp_alone_bind (Task.wp_alone_pure ?_)
      refine Task.wp_alone_bind (Task.wp_mono (persistSingleCallResult_log origin callback) ?_)
      rintro outcome last noted - ⟨rfl, rfl, rfl⟩
      refine Task.wp_mono (xaddWithRetry_log replies _) ?_
      rintro outcome last noted - ⟨rfl, same, answered⟩
      exact ⟨same, answered⟩

end Sending

end ByFramework
