import ByFramework.DispatchRounds
import ByFramework.Runner

/-! What leaves the record of an execution as it should be, and what its record shows a reader. -/

namespace ByFramework

open Async

def sparingRecord (ids : ExecutionIds) (good : ExecutionRecord → Prop) (fits : ResumeCommand → Prop) :
    Contract effects where
  allowed op := match op with
    | .redis (.hset (.sessionRegistry sessionId) fields) => ∃ field value, fields = [(field, value)] ∧
        (sessionId = ids.sessionId → field = execField ids.executionId →
          ∃ record, value = .execution record ∧ record.executionId = ids.executionId ∧ good record)
    | .redis (.xadd _ (.command (.resume reply))) =>
        reply.header.parentMessageId = ids.messageId → fits reply
    | op => op.writesRegistry = false ∧ op.marksPhase = false
  expected op reply := match op, reply with
    | .uuid, id => freshExecutionId id ≠ ids.executionId ∧ messageIdOf id ≠ ids.messageId
    | .redis (.hget (.sessionRegistry sessionId) field), .ok (some (.execution record)) =>
        sessionId = ids.sessionId → field = execField ids.executionId →
          record.executionId = ids.executionId ∧ good record
    | _, _ => True

def sendsFitting (ids : ExecutionIds) (fits : ResumeCommand → Prop) (op : Op) : Prop :=
  ∀ stream reply, op = .redis (.xadd stream (.command (.resume reply))) →
    reply.header.parentMessageId = ids.messageId → fits reply

abbrev roundSetting (ids : ExecutionIds) (mayFail : RedisCommand → Prop)
    (fits : Progress → ResumeCommand → Prop) : Setting effects (RedisStore × Progress) :=
  .alone (noting Progress.note (roundServe ids mayFail))
    fun state op => sendsFitting ids (fits state.2) op

theorem note_unmarked (progress : Progress) {op : Op} (unmarked : op.marksPhase = false) :
    progress.note op = progress := by
  unfold Progress.note
  split
  · cases unmarked
  · cases unmarked
  · rfl

section Sparing

variable {σ α : Type} {ids : ExecutionIds} {good : ExecutionRecord → Prop}
  {mayFail : RedisCommand → Prop} {fits : Progress → ResumeCommand → Prop}
  {fitting : ResumeCommand → Prop} {inv : σ → Prop} {memory : σ} {store : RedisStore}
  {progress : Progress}

theorem sendsFitting_of_sparing {op : Op} (permitted : (sparingRecord ids good fitting).allowed op) :
    sendsFitting ids fitting op := by
  rintro stream reply rfl answers
  exact permitted answers

theorem unmarked_of_sparing {op : Op} (permitted : (sparingRecord ids good fitting).allowed op) :
    op.marksPhase = false := by
  cases op with
  | process workerId request => exact permitted.2
  | _ => rfl

theorem rewrites_registry {command : RedisCommand} {sessionId : String}
    (spares : Op.writesRegistry (.redis command) = false) :
    command.rewrites (.sessionRegistry sessionId) = false := by
  cases command with
  | set other value ifAbsent ttl =>
      refine decide_eq_false ?_
      rintro rfl
      cases spares
  | del other =>
      refine decide_eq_false ?_
      rintro rfl
      cases spares
  | hset other fields =>
      refine decide_eq_false ?_
      rintro rfl
      cases spares
  | hincrby other field amount =>
      refine decide_eq_false ?_
      rintro rfl
      cases spares
  | _ => rfl

theorem registry_served {op : Op} {reply : op.Reply} {after : RedisStore} {sessionId : String}
    (spares : op.writesRegistry = false) (served : roundServe ids mayFail store op reply after) :
    after.hash (.sessionRegistry sessionId) = store.hash (.sessionRegistry sessionId) := by
  cases op with
  | redis command =>
      have kept : (store.exec command).2.hash (.sessionRegistry sessionId) =
          store.hash (.sessionRegistry sessionId) :=
        Redis.Store.hash_exec (rewrites_registry spares)
      rcases served with executed | ⟨-, -, rfl | rfl⟩
      · rw [executed] at kept
        exact kept
      · rfl
      · exact kept
  | uuid => rw [served.1]
  | _ => rw [show after = store from served]

def besideRegistry : Contract effects :=
  .only fun op => op.writesRegistry = false ∧ op.sendsReply = false ∧ op.marksPhase = false

theorem wp_besideRegistry {task : Proc σ α} (uses : task.Uses besideRegistry) :
    task.wp (.alone (roundServe ids mayFail)) (fun _ _ later =>
      later.hash (.sessionRegistry ids.sessionId) = store.hash (.sessionRegistry ids.sessionId))
      memory store := by
  have kept : task.wp (.alone (roundServe ids mayFail)) (fun _ _ later => True ∧
      later.hash (.sessionRegistry ids.sessionId) = store.hash (.sessionRegistry ids.sessionId))
      memory store := by
    refine Task.wp_of_uses ?_ ?_ uses trivial rfl
    · rintro before later same rfl -
      exact same
    · rintro before op same - ⟨spares, -⟩
      refine ⟨trivial, fun reply after served _ => ⟨trivial, ?_⟩⟩
      exact (registry_served spares served).trans same
  exact Task.wp_mono kept fun _ _ _ _ same => same.2

theorem wp_quiet {wide : RedisStore → (op : Op) → op.Reply → RedisStore → Prop}
    {permitted : Op → Prop} {task : Proc σ α} {post : Except JsError α → σ → RedisStore → Prop}
    (holds : task.wp (.alone wide) post memory store) (uses : task.Uses (.only permitted))
    (narrows : ∀ state op reply after, roundServe ids mayFail state op reply after →
      wide state op reply after)
    (quiet : ∀ op, permitted op → op.sendsReply = false ∧ op.marksPhase = false) :
    task.wp (roundSetting ids mayFail fits) (fun outcome after later =>
      post outcome after later.1 ∧ later.2 = progress) memory (store, progress) := by
  refine Prog.wp_noting holds (uses memory trivial) narrows fun state op allowed => ?_
  obtain ⟨sendsNone, unmarked⟩ := quiet op allowed
  refine ⟨?_, note_unmarked progress unmarked⟩
  rintro stream reply rfl -
  cases sendsNone

theorem wp_besideRegistry_noted {task : Proc σ α} (uses : task.Uses besideRegistry) :
    task.wp (roundSetting ids mayFail fits) (fun _ _ later =>
      later.1.hash (.sessionRegistry ids.sessionId) =
        store.hash (.sessionRegistry ids.sessionId) ∧ later.2 = progress)
      memory (store, progress) :=
  wp_quiet (wp_besideRegistry uses) uses (fun _ _ _ _ served => served)
    fun _ permitted => permitted.2

theorem getSessionHistory_beside {sessionId : String} :
    (getSessionHistory sessionId : Proc σ JsonValue).Uses besideRegistry inv :=
  Task.uses_bind (Task.uses_await ⟨rfl, rfl, rfl⟩) fun outcome => uses_orThrow outcome

theorem admitReply_beside {groupName : String} {streamName : Key} {msgId : Nat}
    (worker : GatewayWorker) (resume : ResumeCommand) :
    (worker.admitReply groupName streamName msgId resume : Proc σ Bool).Uses besideRegistry inv :=
  admitReply_message (fun op _ spares silent unmarked =>
    show besideRegistry.allowed op from ⟨spares, silent, unmarked⟩) _ _

/-! ### Operations that spare the record -/

theorem stored_of_hash {later : RedisStore} (stored : ids.Stored good store)
    (same : later.hash (.sessionRegistry ids.sessionId) =
      store.hash (.sessionRegistry ids.sessionId)) : ids.Stored good later := by
  obtain ⟨record, found, named, holds⟩ := stored
  refine ⟨record, ?_, named, holds⟩
  rw [ExecutionIds.recordIn, Redis.Store.field, same]
  exact found

theorem ExecutionIds.Mapped.of_hash {later : RedisStore} (mapped : ids.Mapped store)
    (same : later.hash (.sessionRegistry ids.sessionId) =
      store.hash (.sessionRegistry ids.sessionId)) : ids.Mapped later := by
  refine ⟨mapped.sessionId, mapped.executionId, ?_⟩
  rw [Redis.Store.field, same]
  exact mapped.mapped

theorem stored_exec {command : RedisCommand}
    (permitted : (sparingRecord ids good fitting).allowed (.redis command))
    (stored : ids.Stored good store) : ids.Stored good (store.exec command).2 := by
  by_cases writes : Op.writesRegistry (.redis command) = false
  · exact stored_of_hash stored (Redis.Store.hash_exec (rewrites_registry writes))
  · cases command with
    | hset key fields =>
        cases key with
        | sessionRegistry sessionId =>
            obtain ⟨field, value, rfl, files⟩ := permitted
            obtain ⟨record, found, named, holds⟩ := stored
            rw [ExecutionIds.Stored, ExecutionIds.recordIn, Redis.Store.field_hset]
            by_cases same : Key.sessionRegistry ids.sessionId = .sessionRegistry sessionId ∧
                execField ids.executionId = field
            · obtain ⟨rfl⟩ := Key.sessionRegistry.inj same.1
              obtain ⟨written, rfl, fits⟩ := files rfl same.2.symm
              rw [if_pos ⟨rfl, same.2⟩]
              exact ⟨written, rfl, fits⟩
            · rw [if_neg same]
              exact ⟨record, found, named, holds⟩
        | _ => exact absurd rfl writes
    | set key value ifAbsent ttl =>
        exact absurd permitted.1 writes
    | del key => exact absurd permitted.1 writes
    | hincrby key field amount => exact absurd permitted.1 writes
    | _ => exact absurd rfl writes

theorem expected_hget {sessionId field : String} (stored : ids.Stored good store)
    {reply : Except String (Option Value)} {after : RedisStore}
    (served : roundServe ids mayFail store (.redis (.hget (.sessionRegistry sessionId) field)) reply after) :
    (sparingRecord ids good fitting).expected (.redis (.hget (.sessionRegistry sessionId) field)) reply := by
  rcases served with executed | ⟨-, ⟨error, rfl⟩, -⟩
  · obtain ⟨record, found, named, holds⟩ := stored
    obtain ⟨rfl, rfl⟩ := Prod.mk.inj executed
    generalize read : ((store.hash (.sessionRegistry sessionId)).lookup field) = value
    cases value with
    | none => trivial
    | some value =>
        cases value with
        | execution other =>
            rintro rfl rfl
            have same : some (Value.execution other) = some (.execution record) :=
              read.symm.trans found
            cases same
            exact ⟨named, holds⟩
        | _ => trivial
  · trivial

theorem expected_served {op : Op} {reply : op.Reply} {after : RedisStore}
    (stored : ids.Stored good store) (served : roundServe ids mayFail store op reply after) :
    (sparingRecord ids good fitting).expected op reply := by
  cases op with
  | uuid => exact served.2
  | redis command =>
      cases command with
      | hget key field =>
          cases key with
          | sessionRegistry sessionId => exact expected_hget stored served
          | _ => trivial
      | _ => trivial
  | _ => trivial

theorem stored_served {op : Op} {reply : op.Reply} {after : RedisStore}
    (permitted : (sparingRecord ids good fitting).allowed op) (stored : ids.Stored good store)
    (served : roundServe ids mayFail store op reply after) : ids.Stored good after := by
  cases op with
  | redis command =>
      have kept := stored_exec permitted stored
      rcases served with executed | ⟨-, -, rfl | rfl⟩
      · rw [executed] at kept
        exact kept
      · exact stored
      · exact kept
  | uuid =>
      rw [served.1]
      exact stored
  | _ =>
      rw [show after = store from served]
      exact stored

theorem wp_sparing {task : Proc σ α}
    (uses : task.Uses (sparingRecord ids good (fits progress)) inv) (held : inv memory)
    (stored : ids.Stored good store) :
    task.wp (roundSetting ids mayFail fits) (fun _ after later => inv after ∧
      ids.Stored good later.1 ∧ later.2 = progress) memory (store, progress) := by
  refine Task.wp_of_uses ?_ ?_ uses held ⟨stored, rfl⟩
  · rintro before later stored rfl -
    exact stored
  · rintro ⟨before, _⟩ op ⟨stored, rfl⟩ - permitted
    refine ⟨sendsFitting_of_sparing permitted, ?_⟩
    rintro reply ⟨after, _⟩ ⟨served, rfl⟩ -
    exact ⟨expected_served stored served, stored_served permitted stored served,
      note_unmarked _ (unmarked_of_sparing permitted)⟩

theorem wp_spares {task : Proc σ α}
    (uses : task.Uses (sparingRecord ids good (fits progress)))
    (stored : ids.Stored good store) :
    task.wp (roundSetting ids mayFail fits) (fun _ _ later => ids.Stored good later.1 ∧
      later.2 = progress) memory (store, progress) :=
  Task.wp_mono (wp_sparing uses trivial stored) fun _ _ _ _ kept => kept.2

theorem sparing_of_quiet {op : Op} (spares : op.writesRegistry = false)
    (silent : op.sendsReply = false) (unmarked : op.marksPhase = false) :
    (sparingRecord ids good fitting).allowed op := by
  cases op with
  | redis command =>
      cases command with
      | hset key fields =>
          cases key with
          | sessionRegistry sessionId => cases spares
          | _ => exact ⟨spares, unmarked⟩
      | xadd stream value =>
          cases value with
          | command sent =>
              cases sent with
              | resume reply => cases silent
              | _ => exact ⟨spares, unmarked⟩
          | _ => exact ⟨spares, unmarked⟩
      | _ => exact ⟨spares, unmarked⟩
  | _ => exact ⟨spares, unmarked⟩

theorem sparing_files {record : ExecutionRecord} {id : String}
    (fresh : (sparingRecord ids good fitting).expected .uuid id)
    (named : record.executionId = freshExecutionId id) :
    PermitsFiling (sparingRecord ids good fitting) record := by
  constructor
  · refine ⟨_, _, rfl, ?_⟩
    intro _ same
    have clash : record.executionId = ids.executionId := execField_injective same
    exact absurd (named.symm.trans clash) fresh.1
  · refine ⟨_, _, rfl, ?_⟩
    intro _ same
    exact absurd same.symm (execField_ne_msgMapField _ _)

/-- No queued stand-in is taken for a reply of the execution, and the command known is this one. -/
structure Handling (ids : ExecutionIds) (known : GatewayCommand) (context : AgentContext) :
    Prop where
  unmistaken : ∀ reply ∈ context.pendingGroupReplies,
    reply.header.parentMessageId ≠ ids.messageId
  current : context.currentCommand = known

theorem sparing_keeps (known : GatewayCommand) :
    MessageKeeps (sparingRecord ids good fitting) (Handling ids known) where
  permits op called spares :=
    sparing_of_quiet spares (Op.sendsReply_of_handler called) (Op.unmarked_of_handler called)
  files _ _ fresh named := sparing_files fresh named
  notes before after held notes := by
    constructor
    · rw [notes.pendingGroupReplies]
      exact held.unmistaken
    · rw [notes.currentCommand]
      exact held.current
  suspends _ _ held _ := ⟨held.unmistaken, held.current⟩
  queues context reply id held fresh named := by
    refine ⟨?_, held.current⟩
    intro queued listed
    rcases List.mem_append.mp listed with earlier | added
    · exact held.unmistaken queued earlier
    · rw [List.mem_singleton.mp added, named]
      exact fresh.2
  handles _ handled spares silent := sparing_of_quiet spares silent (Op.unmarked_of_worker handled)
  takes _ held := ⟨fun _ listed => absurd listed (by simp), held.current⟩
  standIns _ _ held reply listed answers := absurd answers (held.unmistaken reply listed)

theorem wp_hget_shows {key : Key} {name : String} {value : Value}
    (held : store.field key name = some value) :
    (redis (.hget key name) : Proc σ _).wp (flaky mayFail) (fun outcome _ later =>
      later = store ∧ (outcome = .ok (some value) ∨
        mayFail (.hget key name) ∧ ∃ error, outcome = .error error)) memory store := by
  refine wp_redis_flaky ⟨rfl, .inl (congrArg Except.ok held)⟩ ?_
  rintro fails error after (rfl | rfl)
  · exact ⟨rfl, .inr ⟨fails, error, rfl⟩⟩
  · exact ⟨rfl, .inr ⟨fails, error, rfl⟩⟩

theorem wp_changeExecution (strong : ExecutionRecord → Prop)
    {change : Int → ExecutionRecord → ExecutionRecord} (session : ids.sessionId ≠ "")
    (changes : ∀ now record, good record → strong (change now record))
    (names : ∀ now record, (change now record).executionId = record.executionId)
    (stored : ids.Stored good store) :
    (changeExecution ids.executionId ids.sessionId change : Proc σ PUnit).wp
      (flaky besideRecords) (fun outcome _ later =>
        (ids.Stored strong later) ∨ (∃ error, outcome = .error error) ∧ later = store)
      memory store := by
  obtain ⟨record, found, named, holds⟩ := stored
  unfold changeExecution getExecution
  rw [if_neg session]
  refine Task.wp_alone_bind (Task.wp_alone_bind (Task.wp_mono (wp_hget_shows found) ?_))
  rintro _ memory middle - ⟨rfl, rfl | ⟨-, error, rfl⟩⟩
  · refine Task.wp_alone_pure (Task.wp_alone_bind (Task.wp_alone_await ?_))
    intro now after same
    obtain rfl : middle = after := Eq.symm same
    have written : ids.Stored strong (middle.exec (.hset (.sessionRegistry ids.sessionId)
        [(execField ids.executionId, .execution (change now record))])).2 := by
      refine ⟨change now record, ?_, (names now record).trans named, changes now record holds⟩
      rw [ExecutionIds.recordIn, Redis.Store.field_hset, if_pos ⟨rfl, rfl⟩]
    refine Task.wp_mono (wp_pipeline_flaky written (fun fails => fails.elim) ?_)
      fun _ _ _ _ kept => .inl kept
    intro later listed before kept
    rw [List.mem_singleton.mp listed]
    exact stored_of_hash kept (Redis.Store.hash_exec rfl)
  · exact .inr ⟨⟨error, rfl⟩, rfl⟩

theorem wp_background_round {task : Proc σ α} {post : Except JsError α → σ → RedisStore → Prop}
    (uses : task.Uses background) (holds : task.wp (flaky mayFail) post memory store) :
    task.wp (roundSetting ids mayFail fits) (fun outcome after later =>
      post outcome after later.1 ∧ later.2 = progress) memory (store, progress) := by
  refine wp_quiet holds uses ?_ fun op quiet => ?_
  · intro before op reply after served
    cases op with
    | uuid => exact served.1
    | _ => exact served
  · have called := Op.ofHandler_of_background quiet
    exact ⟨Op.sendsReply_of_handler called, Op.unmarked_of_handler called⟩

theorem changeExecution_sparing {executionId sessionId : String}
    {change : Int → ExecutionRecord → ExecutionRecord}
    (changes : ∀ now record, good record → good (change now record))
    (names : ∀ now record, (change now record).executionId = record.executionId) :
    (changeExecution executionId sessionId change : Proc σ PUnit).Uses (sparingRecord ids good fitting)
      inv := by
  refine uses_getExecution_bind ⟨rfl, rfl⟩ (Task.uses_pure _) fun record expected => ?_
  refine Task.uses_bind (Task.uses_await ⟨rfl, rfl⟩) fun now => ?_
  refine uses_pipeline (fun command listed => ?_) ⟨rfl, rfl⟩
  simp only [List.mem_cons, List.not_mem_nil, or_false] at listed
  rcases listed with rfl | rfl
  · refine ⟨_, _, rfl, ?_⟩
    intro session field
    obtain ⟨named, holds⟩ := expected session field
    exact ⟨_, rfl, (names now record).trans named, changes now record holds⟩
  · exact ⟨rfl, rfl⟩

theorem wp_lookup {record : ExecutionRecord} (mapped : ids.Mapped store)
    (found : ids.recordIn store = some (.execution record)) :
    (getExecutionByMessageId ids.messageId ids.sessionId : Proc σ _).wp (flaky mayFail)
      (fun outcome _ later => later = store ∧ (outcome = .ok (some record) ∨
        (∃ name, mayFail (.hget (.sessionRegistry ids.sessionId) name)) ∧
          ∃ error, outcome = .error error)) memory store := by
  unfold getExecutionByMessageId
  rw [if_neg mapped.sessionId]
  refine Task.wp_alone_bind (Task.wp_mono (wp_hget_shows mapped.mapped) ?_)
  rintro _ memory _ - ⟨rfl, rfl | ⟨fails, failed⟩⟩
  · change (if ids.executionId = "" then pure none else
      getExecution ids.executionId ids.sessionId : Proc σ _).wp _ _ _ _
    unfold getExecution
    rw [if_neg mapped.executionId, if_neg mapped.sessionId]
    refine Task.wp_alone_bind (Task.wp_mono (wp_hget_shows found) ?_)
    rintro _ memory _ - ⟨rfl, rfl | ⟨fails, failed⟩⟩
    · exact Task.wp_alone_pure ⟨rfl, .inl rfl⟩
    · obtain ⟨error, rfl⟩ := failed
      exact ⟨rfl, .inr ⟨⟨_, fails⟩, error, rfl⟩⟩
  · obtain ⟨error, rfl⟩ := failed
    exact ⟨rfl, .inr ⟨⟨_, fails⟩, error, rfl⟩⟩

theorem wp_lookup_round {record : ExecutionRecord} (mapped : ids.Mapped store)
    (found : ids.recordIn store = some (.execution record)) :
    (getExecutionByMessageId ids.messageId ids.sessionId : Proc σ _).wp
      (.alone (roundServe ids mayFail)) (fun outcome _ later => later = store ∧
        (outcome = .ok (some record) ∨
          (∃ name, mayFail (.hget (.sessionRegistry ids.sessionId) name)) ∧
            ∃ error, outcome = .error error)) memory store := by
  have looks : (getExecutionByMessageId ids.messageId ids.sessionId : Proc σ _).Uses
      background := getExecutionByMessageId_background _ _
  refine Prog.wp_allowing (wp_lookup mapped found) (looks memory trivial) ?_ fun _ _ _ => trivial
  intro before op reply after served
  cases op with
  | uuid => exact served.1
  | _ => exact served

theorem sendsFitting_process (workerId : String)
    (request : ProcessRequest) : sendsFitting ids fitting (.process workerId request) := by
  rintro stream reply ⟨⟩

theorem wp_process {workerId : String} {request : ProcessRequest} {next : request.Reply → Proc σ α}
    {post : Except JsError α → σ → RedisStore × Progress → Prop}
    (rest : ∀ reply, (next reply).wp (roundSetting ids mayFail fits) post memory
      (store, progress.note (.process workerId request))) :
    (ofProcess workerId request >>= next).wp (roundSetting ids mayFail fits) post memory
      (store, progress) := by
  refine Task.wp_alone_bind (Task.wp_alone_issue (sendsFitting_process _ _) ?_)
  rintro reply ⟨after, _⟩ ⟨same, rfl⟩
  obtain rfl : after = store := same
  exact rest reply

end Sparing

/-! ### The handler -/

def readOf (command : GatewayCommand) (metadata : JsonObject) : JsonObject :=
  if command.isResume then mergeResumeMetadata metadata command.header.metadata
  else command.header.metadata

theorem restoreInboundMetadata_reads {data : GatewayCommand} {metadata : JsonObject}
    {record : ExecutionRecord} (kept : data.isResume = true → record.metadata = metadata) :
    (restoreInboundMetadata data (some record)).header.metadata = readOf data metadata := by
  cases data with
  | resume resume =>
      have same : record.metadata = metadata := kept rfl
      change mergeResumeMetadata record.metadata resume.header.metadata = _
      rw [same]
      rfl
  | _ => rfl

def Turn.Returned (turn : Turn) (ids : ExecutionIds) (inbound : GatewayCommand)
    (value : HandlerValue) : Prop :=
  ∃ context last before after, context.currentCommand = turn.knows inbound ∧
    Prog.Ends (turn.serve ids) ((turn.handler inbound context).run.start context)
      before (.ok value, last) after

section Handler

variable {ids : ExecutionIds} {turn : Turn} {inbound : GatewayCommand} {context : AgentContext}
  {good : ExecutionRecord → Prop} {read metadata : JsonObject} {store : RedisStore}
  {progress : Progress}

variable (turn) in
theorem wp_handler {fits : Progress → ResumeCommand → Prop}
    (handling : Handling ids (turn.knows inbound) context) (stored : ids.Stored good store) :
    (turn.handler inbound context).run.wp (roundSetting ids turn.mayFail fits)
      (fun outcome last later => Handling ids (turn.knows inbound) last ∧
        (ids.Stored good later.1 ∧ later.2 = progress) ∧
        ∀ value, outcome = .ok value → turn.Returned ids inbound value)
      context (store, progress) := by
  have uses : (turn.handler inbound context).run.Uses
      (sparingRecord ids good (fits progress)) (Handling ids (turn.knows inbound)) :=
    Handler.run_uses (sparing_keeps _).toHandlerKeeps _
  have kept : Task.wp (roundSetting ids turn.mayFail fits) _ _ _ _ :=
    wp_sparing uses handling stored
  refine Prog.wp_mono (Prog.wp_ending kept) ?_
  rintro ⟨outcome, last⟩ later - ⟨⟨left, stored⟩, ends⟩
  refine ⟨left, stored, ?_⟩
  rintro value rfl
  exact ⟨_, _, _, _, handling.current, Prog.ends_noting_iff.mpr ⟨_, ends⟩⟩

theorem fits_returned {reply : ResumeCommand} {value : HandlerValue} {result : AgentTaskResult}
    (reads : inbound.header.metadata = read) (returned : turn.Returned ids inbound value)
    (normal : normalizeProcessResult value = .ok result) (content : reply.content = result.content)
    (replyData : reply.replyData = result.replyData)
    (carries : reply.header.metadata = spread metadata result.metadata) :
    turn.Fits ids read metadata .returned reply := by
  obtain ⟨context, last, before, after, current, ran⟩ := returned
  exact fun _ => .returned reads current ran normal content replyData carries

theorem fits_failing {reply : ResumeCommand} {workerId sessionId messageId : String}
    (begun : progress = .handling ∨ progress = .returned)
    (carries : reply.header.metadata = metadata) :
    turn.Fits ids read metadata
      (progress.note (.process workerId (.reach (.messageFails sessionId messageId)))) reply := by
  rcases begun with rfl | rfl
  · exact fun _ => .failed carries
  · exact fun unjudged => absurd rfl unjudged

end Handler

end ByFramework
