import ByFramework.StoredAnswer
import ByFramework.WaitPruning

/-! What the triage of one due entry leaves behind, and on what evidence it answers the caller. -/

namespace ByFramework

open Async

def repliesIn (store : RedisStore) (key : Key) : List ResumeCommand :=
  (store.stream key).entries.filterMap fun value => match value with
    | .command (.resume reply) => some reply
    | _ => none

structure Hushed (before after : RedisStore) : Prop where
  clock : after.clock = before.clock
  waits : ∀ key, key.isBackground = false → after.scored key = before.scored key
  replies : ∀ key, key.isBackground = false → repliesIn after key = repliesIn before key

theorem Hushed.refl (store : RedisStore) : Hushed store store :=
  ⟨rfl, fun _ _ => rfl, fun _ _ => rfl⟩

theorem Hushed.trans {first second third : RedisStore} (left : Hushed first second)
    (right : Hushed second third) : Hushed first third where
  clock := right.clock.trans left.clock
  waits := fun key kind => (right.waits key kind).trans (left.waits key kind)
  replies := fun key kind => (right.replies key kind).trans (left.replies key kind)

def hushing : Contract effects := .only fun op => op.isBackground = true ∨
  ∃ workerId command,
    op = .redis (.xadd (.workerCtrlStream workerId) (.command (.cancelTask command)))

theorem background_ne {written other : Key} (writes : written.isBackground = true)
    (kind : other.isBackground = false) : other ≠ written := by
  rintro rfl
  rw [writes] at kind
  cases kind

theorem hushed_drop (store : RedisStore) {key : Key} (writes : key.isBackground = true) :
    Hushed store (store.drop key) where
  clock := rfl
  waits := fun other kind => Function.update_of_ne (background_ne writes kind) ..
  replies := by
    intro other kind
    have same : (store.drop key).stream other = store.stream other :=
      Function.update_of_ne (background_ne writes kind) ..
    unfold repliesIn
    rw [same]

theorem hushed_background (store : RedisStore) {command : RedisCommand}
    (quiet : backgroundCommand command = true) : Hushed store (store.exec command).2 := by
  unfold backgroundCommand at quiet
  split at quiet
  · exact Hushed.refl store
  · exact Hushed.refl store
  · exact Hushed.refl store
  · cases quiet
  · exact Hushed.refl store
  · exact Hushed.refl store
  · rename_i key value ifAbsent ttl
    unfold Redis.Store.exec
    dsimp only
    split
    · exact Hushed.refl store
    · exact ⟨rfl, (hushed_drop store quiet).waits, (hushed_drop store quiet).replies⟩
  · exact hushed_drop store quiet
  · unfold Redis.Store.exec
    dsimp only
    split
    · exact ⟨rfl, fun _ _ => rfl, fun _ _ => rfl⟩
    · exact Hushed.refl store
  · exact ⟨rfl, fun _ _ => rfl, fun _ _ => rfl⟩
  · cases quiet

theorem hushed_cancellation (store : RedisStore) (workerId : String) (command : CancelTaskCommand) :
    Hushed store
      (store.exec (.xadd (.workerCtrlStream workerId) (.command (.cancelTask command)))).2 where
  clock := rfl
  waits := fun _ _ => rfl
  replies := by
    intro key kind
    unfold repliesIn Redis.Store.exec
    dsimp only
    by_cases same : key = .workerCtrlStream workerId
    · subst same
      rw [Function.update_self, List.filterMap_append]
      exact List.append_nil _
    · rw [Function.update_of_ne same]

theorem hushed_served {before after : RedisStore} {op : Op} {reply : op.Reply}
    (permitted : hushing.allowed op) (served : clockServe before op reply after) :
    Hushed before after := by
  have still : after = before → Hushed before after := by
    rintro rfl
    exact Hushed.refl after
  cases op with
  | redis command =>
      have executed : (before.exec command).2 = after := congrArg Prod.snd served
      rw [← executed]
      rcases permitted with quiet | ⟨workerId, cancel, same⟩
      · exact hushed_background before quiet
      · cases same
        exact hushed_cancellation before workerId cancel
  | now => exact still served.2
  | endPipeline => exact still served
  | uuid => exact still served
  | saveMessage sessionId role content metadata => exact still served
  | getSessionHistory sessionId => exact still served
  | setupWorkspace sessionId workspace => exact still served
  | cleanupTask sessionId messageId => exact still served
  | persistAgentReturnState state => exact still served
  | hook name => exact still served
  | process runner request => exact still served

section

variable {σ α : Type} {memory : σ} {store : RedisStore}

theorem wp_hushed {task : Proc σ α} (uses : task.Uses hushing) :
    task.wp (Setting.alone clockServe) (fun _ _ after => Hushed store after) memory store := by
  have kept : task.wp (Setting.alone clockServe) (fun _ _ after => True ∧ Hushed store after)
      memory store := by
    refine Task.wp_of_uses ?_ ?_ uses trivial (Hushed.refl store)
    · rintro before later held rfl -
      exact held
    · intro before op held _ permitted
      refine ⟨trivial, fun reply after served _ => ⟨trivial, held.trans ?_⟩⟩
      exact hushed_served permitted served
  exact Task.wp_mono kept fun _ _ _ _ hushed => hushed.2

end

def recordOf (store : RedisStore) (messageId sessionId : String) :
    Except JsError (Option ExecutionRecord) :=
  readExecution (fun field => store.field (.sessionRegistry sessionId) field) messageId sessionId

def onlineIn (store : RedisStore) (workerId : String) : Bool :=
  let leaseValue := store.text (.workerOnlineLease workerId)
  let presence := decodeWorkerPresence leaseValue
  leaseValue.isSome && (presence.isLegacy || decide (0 < presence.lastSeen))

def ceilingIn (options : SweeperOptions) (due : DueEntry) (child : ExecutionRecord)
    (store : RedisStore) : Int :=
  let stored := asInt (store.text (.waitRenewOrigin due.entry.sessionId (memberDigest due.member)))
  let originMs := if stored = 0 then due.deadlineMs else stored
  let timeoutMs := originMs - child.createdAt
  let usableMs :=
    if child.createdAt ≤ 0 ∨ timeoutMs ≤ 0 then defaultReplyTimeoutMs else timeoutMs
  originMs + max (usableMs * (options.renewMaxMultiple - 1)) waitRenewIncrementMs

def ChildSpent (options : SweeperOptions) (due : DueEntry) (store : RedisStore)
    (child : ExecutionRecord) : Prop :=
  isSuspendedState (baseStatus child.status) = false ∧
    (isTerminalState (baseStatus child.status) = true ∨ child.workerId = "" ∨
      onlineIn store child.workerId = false ∨ ceilingIn options due child store ≤ store.clock)

def GroupWaits (store : RedisStore) (entry : WaitIndexMember) : Prop :=
  (store.field (.taskGroup entry.taskGroupId) taskGroupFieldTotal).isSome = true ∧
    (store.field (.taskGroup entry.taskGroupId) taskGroupFieldAborted).any Value.truthy = false ∧
    store.field (.taskGroupResults entry.taskGroupId) entry.childMessageId = none

/-- What has to hold before a caller is answered in its child's place. -/
structure Answerable (options : SweeperOptions) (due : DueEntry) (store : RedisStore)
    (caller : ExecutionRecord) (child : Option ExecutionRecord) : Prop where
  called : recordOf store due.entry.parentMessageId due.entry.sessionId = .ok (some caller)
  suspended : isSuspendedState (baseStatus caller.status) = true
  named : due.entry.childMessageId ≠ ""
  group : due.entry.taskGroupId = "" ∨ GroupWaits store due.entry
  asked : recordOf store due.entry.childMessageId due.entry.sessionId = .ok child
  spent : ∀ record, child = some record → ChildSpent options due store record

theorem unfinished_of_suspended {status : String} (suspended : isSuspendedState status = true) :
    isTerminalState status = false := by
  by_contra terminal
  rw [Bool.not_eq_false] at terminal
  rw [not_suspended_of_terminal terminal] at suspended
  cases suspended

/-! ### The effects -/

def Silent (before after : RedisStore) : Prop :=
  ∀ key, key.isBackground = false → repliesIn after key = repliesIn before key

def Told (due : DueEntry) (caller : ExecutionRecord) (child : Option ExecutionRecord)
    (before after : RedisStore) : Prop :=
  ∃ reply : ResumeCommand, reply.header.answers = due.entry ∧
    reply.header.targetAgentType = orElseText
      ((child.map ExecutionRecord.sourceAgentType).getD "") caller.targetAgentType ∧
    ∀ key, key.isBackground = false → repliesIn after key =
      if key = .ctrlStream reply.header.targetAgentType then repliesIn before key ++ [reply]
      else repliesIn before key

def Renewed (due : DueEntry) (before after : RedisStore) : Prop :=
  after.scored due.indexKey = Redis.insertScored due.member (before.clock + waitRenewIncrementMs)
    (Redis.without due.member (before.scored due.indexKey))

def Dropped (due : DueEntry) (before after : RedisStore) : Prop :=
  after.scored due.indexKey = Redis.without due.member (before.scored due.indexKey)

theorem Renewed.score {due : DueEntry} {before after : RedisStore}
    (renewed : Renewed due before after) :
    after.score due.indexKey due.member = some (before.clock + waitRenewIncrementMs) := by
  have same := Redis.Store.score_zadd before due.indexKey due.indexKey due.member due.member
    (before.clock + waitRenewIncrementMs)
  rw [if_pos ⟨rfl, rfl⟩] at same
  rw [← same]
  unfold Redis.Store.score
  rw [renewed]
  simp [Redis.Store.exec]

theorem Dropped.score {due : DueEntry} {before after : RedisStore}
    (dropped : Dropped due before after) : after.score due.indexKey due.member = none := by
  have same := Redis.Store.score_zrem before due.indexKey due.indexKey due.member due.member
  rw [if_pos ⟨rfl, rfl⟩] at same
  rw [← same]
  unfold Redis.Store.score
  rw [dropped]
  simp [Redis.Store.exec]

structure Heard (due : DueEntry) (caller : ExecutionRecord) (child : Option ExecutionRecord)
    (before after : RedisStore) : Prop where
  renewed : Renewed due before after
  replies : Silent before after ∨ Told due caller child before after

theorem Hushed.silent {before after : RedisStore} (hushed : Hushed before after) :
    Silent before after :=
  hushed.replies

section

variable {σ : Type} {memory : σ} {store : RedisStore} {options : SweeperOptions} {due : DueEntry}

theorem wp_getExecution_clock {executionId sessionId : String}
    {post : Except JsError (Option ExecutionRecord) → σ → RedisStore → Prop}
    (filled : sessionId ≠ "")
    (holds : post (match store.field (.sessionRegistry sessionId) (execField executionId) with
      | some (.execution record) => .ok (some record)
      | none | some (.text "") => .ok none
      | some _ => .error (syntaxError "Unexpected token in JSON")) memory store) :
    (getExecution executionId sessionId : Proc σ _).wp (Setting.alone clockServe) post memory
      store := by
  unfold getExecution
  rw [if_neg filled]
  refine Task.wp_alone_bind (wp_redis_clock ?_)
  dsimp only [Redis.Store.exec, Except.mapError]
  unfold Redis.Store.field at holds
  generalize (store.hash (.sessionRegistry sessionId)).lookup (execField executionId) = held
    at holds ⊢
  split at holds
  · exact Task.wp_alone_pure holds
  · exact Task.wp_alone_pure holds
  · exact Task.wp_alone_pure holds
  · rename_i value noRecord filled
    split
    · rename_i record same
      exact (noRecord record (Option.some.inj same)).elim
    · rename_i same
      cases same
    · rename_i same
      exact (filled (Option.some.inj same)).elim
    · exact Task.wp_alone_throw holds

theorem wp_recordOf {messageId sessionId : String}
    {post : Except JsError (Option ExecutionRecord) → σ → RedisStore → Prop}
    (holds : post (recordOf store messageId sessionId) memory store) :
    (getExecutionByMessageId messageId sessionId : Proc σ _).wp (Setting.alone clockServe) post
      memory store := by
  unfold recordOf readExecution at holds
  unfold getExecutionByMessageId
  by_cases blank : sessionId = ""
  · rw [if_pos blank]
    rw [if_pos (.inl blank)] at holds
    exact Task.wp_alone_pure holds
  · rw [if_neg blank]
    refine Task.wp_alone_bind (wp_redis_clock ?_)
    change (if ((store.field (.sessionRegistry sessionId) (msgMapField messageId)).map
        Value.asText).getD "" = "" then pure none else _ : Proc σ _).wp _ post memory store
    by_cases unmapped : ((store.field (.sessionRegistry sessionId) (msgMapField messageId)).map
        Value.asText).getD "" = ""
    · rw [if_pos unmapped]
      rw [if_pos (.inr unmapped)] at holds
      exact Task.wp_alone_pure holds
    · rw [if_neg unmapped]
      rw [if_neg (by rintro (never | never) <;> contradiction)] at holds
      exact wp_getExecution_clock blank holds

theorem wp_onlineIn {workerId : String} {post : Except JsError Bool → σ → RedisStore → Prop}
    (holds : post (.ok (onlineIn store workerId)) memory store) :
    (isWorkerOnline workerId : Proc σ Bool).wp (Setting.alone clockServe) post memory store :=
  Task.wp_alone_bind (wp_redis_clock (Task.wp_alone_pure holds))

theorem wp_ceilingIn {child : ExecutionRecord} {post : Except JsError Int → σ → RedisStore → Prop}
    (holds : post (.ok (ceilingIn options due child store)) memory store) :
    (renewalCeilingMs options due child : Proc σ Int).wp (Setting.alone clockServe) post memory
      store :=
  Task.wp_alone_bind (Task.wp_alone_tryCatch (wp_redis_clock (Task.wp_alone_pure holds)))

theorem wp_extendDeadline (kind : due.indexKey.isBackground = false) :
    (extendDeadline due : Proc σ PUnit).wp (Setting.alone clockServe)
      (fun outcome _ after => outcome = .ok ⟨⟩ ∧ Renewed due store after ∧ Silent store after)
      memory store := by
  have marks : (do
      let _ ← redis (.set (.waitRenewOrigin due.entry.sessionId (memberDigest due.member))
        (.number due.deadlineMs) true (some waitRenewOriginTtlSeconds)) :
        Proc σ PUnit).Uses hushing :=
    uses_redis_bind (.inl rfl) fun _ _ => Task.uses_pure _
  refine Task.wp_alone_bind (Task.wp_failSoft (Task.wp_mono (wp_hushed marks) ?_) trivial)
  rintro _ _ marked - hushed _ rfl -
  refine Task.wp_alone_bind (wp_dateNow_clock ?_)
  refine Task.wp_alone_bind (wp_redis_clock (Task.wp_alone_pure ⟨rfl, ?_, hushed.silent⟩))
  simp only [Renewed, Redis.Store.exec, Function.update_self, hushed.waits _ kind, hushed.clock]

theorem wp_standInReply {params : StandInReplyParams} (named : params.status ≠ "")
    {post : Except JsError ResumeCommand → σ → RedisStore → Prop}
    (holds : ∀ traceId reply, reply.header = standInHeader params traceId →
      reply.status = params.status → reply.replyData = params.replyData →
      post (.ok reply) memory store) :
    (standInReply params : Proc σ _).wp (Setting.alone clockServe) post memory store := by
  have made (traceId : String) : (orThrow (ResumeCommand.make (standInHeader params traceId)
      params.content params.status params.replyData params.extraPayload) : Proc σ _).wp
      (Setting.alone clockServe) post memory store := by
    have valid : params.status ≠ "" ∨ hasContent params.content = true := .inl named
    rw [ResumeCommand.make, dif_pos valid]
    exact Task.wp_alone_pure (holds traceId _ rfl rfl rfl)
  unfold standInReply
  refine Task.wp_alone_bind ?_
  split
  · refine Task.wp_alone_bind (Task.wp_alone_await ?_)
    rintro id _ rfl
    exact Task.wp_alone_pure (made _)
  · exact Task.wp_alone_pure (made _)

theorem told_of_sent {caller : ExecutionRecord} {child : Option ExecutionRecord}
    {reply : ResumeCommand} {after : RedisStore} (answers : reply.header.answers = due.entry)
    (target : reply.header.targetAgentType = orElseText
      ((child.map ExecutionRecord.sourceAgentType).getD "") caller.targetAgentType)
    (silent : Silent (store.exec (.xadd (.ctrlStream reply.header.targetAgentType)
      (.command (.resume reply)))).2 after) : Told due caller child store after := by
  refine ⟨reply, answers, target, fun key kind => (silent key kind).trans ?_⟩
  unfold repliesIn Redis.Store.exec
  dsimp only
  by_cases same : key = .ctrlStream reply.header.targetAgentType
  · subst same
    rw [if_pos rfl, Function.update_self, List.filterMap_append]
    rfl
  · rw [if_neg same, Function.update_of_ne same]

theorem wp_emitReply {caller : ExecutionRecord} {params : StandInParams}
    (kind : due.indexKey.isBackground = false) (named : params.status ≠ "") :
    (emitReply options due caller params : Proc σ Bool).wp (Setting.alone clockServe)
      (fun outcome _ after => (∃ emitted, outcome = .ok emitted) ∧
        Heard due caller params.child store after) memory store := by
  unfold emitReply
  dsimp only
  split
  · refine Task.wp_alone_bind (Task.wp_mono (wp_extendDeadline kind) ?_)
    rintro _ memory after - ⟨rfl, renewed, silent⟩
    exact Task.wp_alone_pure ⟨⟨_, rfl⟩, renewed, .inl silent⟩
  · refine Task.wp_alone_bind (wp_standInReply named fun traceId reply header _ _ => ?_)
    have target : reply.header.targetAgentType = orElseText
        ((params.child.map ExecutionRecord.sourceAgentType).getD "") caller.targetAgentType := by
      rw [header]
      rfl
    have answers : reply.header.answers = due.entry := by
      rw [header]
      rfl
    dsimp only
    rw [← target]
    refine Task.wp_alone_bind (wp_redis_clock ?_)
    refine Task.wp_alone_bind (Task.wp_mono (wp_extendDeadline kind) ?_)
    rintro _ memory after - ⟨rfl, renewed, silent⟩
    exact Task.wp_alone_pure ⟨⟨_, rfl⟩, renewed, .inr (told_of_sent answers target silent)⟩

theorem wp_synthesizeFailure {caller : ExecutionRecord} {child : Option ExecutionRecord}
    {errorCode message status : String} {outcome : SweepOutcome}
    (kind : due.indexKey.isBackground = false) :
    (synthesizeFailure options due caller child errorCode message status outcome :
      Proc σ _).wp (Setting.alone clockServe) (fun outcome _ after =>
        (∃ resolved, outcome = .ok resolved) ∧ Heard due caller child store after)
        memory store := by
  have named : orElseText status AgentState.failed ≠ "" := by
    unfold orElseText
    split
    · decide
    · assumption
  refine Task.wp_alone_bind (Task.wp_mono (wp_emitReply kind named) ?_)
  rintro _ memory after - ⟨⟨emitted, rfl⟩, heard⟩
  exact Task.wp_alone_pure ⟨⟨_, rfl⟩, heard⟩

theorem wp_loadStoredResult {childMessageId : String}
    {post : Except JsError (Option StoredResult) → σ → RedisStore → Prop}
    (holds : ∀ found, post (.ok found) memory store) :
    (loadStoredResult childMessageId : Proc σ _).wp (Setting.alone clockServe) post memory
      store := by
  refine Task.wp_alone_bind (wp_redis_clock ?_)
  dsimp only [Redis.Store.exec, Except.mapError]
  split
  · exact Task.wp_alone_pure (holds _)
  · exact Task.wp_alone_pure (holds _)

theorem wp_recoverFinishedChild {caller child : ExecutionRecord}
    (kind : due.indexKey.isBackground = false)
    (terminal : isTerminalState (baseStatus child.status) = true) :
    (recoverFinishedChild options due caller child : Proc σ _).wp (Setting.alone clockServe)
      (fun outcome _ after => (∃ resolved, outcome = .ok resolved) ∧
        Heard due caller (some child) store after) memory store := by
  have finished : baseStatus child.status ≠ "" := by
    intro empty
    rw [empty] at terminal
    exact absurd terminal (by decide)
  refine Task.wp_alone_bind (wp_loadStoredResult fun found => ?_)
  cases found with
  | none => exact wp_synthesizeFailure kind
  | some stored =>
      have named : orElseText stored.status (baseStatus child.status) ≠ "" := by
        unfold orElseText
        split
        · exact finished
        · assumption
      refine Task.wp_alone_bind (Task.wp_mono (wp_emitReply kind named) ?_)
      rintro _ memory after - ⟨⟨emitted, rfl⟩, heard⟩
      exact Task.wp_alone_pure ⟨⟨_, rfl⟩, heard⟩

theorem Heard.hushed {caller : ExecutionRecord} {child : Option ExecutionRecord}
    {after last : RedisStore} (heard : Heard due caller child store after)
    (kind : due.indexKey.isBackground = false) (hushed : Hushed after last) :
    Heard due caller child store last where
  renewed := (hushed.waits _ kind).trans heard.renewed
  replies := by
    rcases heard.replies with silent | ⟨reply, answers, target, streams⟩
    · exact .inl fun key kind => (hushed.replies key kind).trans (silent key kind)
    · exact .inr ⟨reply, answers, target, fun key kind =>
        (hushed.replies key kind).trans (streams key kind)⟩

theorem wp_cancelTimedOutChild {child : ExecutionRecord}
    {post : Except JsError Bool → σ → RedisStore → Prop}
    (holds : ∀ value memory after, Hushed store after → post (.ok value) memory after) :
    (cancelTimedOutChild options due child : Proc σ Bool).wp (Setting.alone clockServe) post
      memory store := by
  have quiet : ∀ op : Op, op.isBackground = true → hushing.allowed op := fun _ quiet => Or.inl quiet
  have cancels : ∀ workerId command, hushing.allowed
      (.redis (.xadd (.workerCtrlStream workerId) (.command (.cancelTask command)))) :=
    fun workerId command => Or.inr ⟨workerId, command, rfl⟩
  unfold cancelTimedOutChild
  split
  · exact Task.wp_alone_pure (holds _ _ _ (Hushed.refl store))
  · have cancelled (params : CancelTaskParams) :
        (cancelTask options.searchFuel params : Proc σ _).Uses hushing :=
      cancelTask_uses quiet cancels _ _
    refine Task.wp_alone_tryCatch (Task.wp_mono (wp_hushed (Task.uses_bind (cancelled _)
      fun _ => Task.uses_pure _)) ?_)
    rintro outcome memory after - hushed
    cases outcome with
    | ok value => exact holds _ _ _ hushed
    | error error => exact Task.wp_alone_pure (holds _ _ _ hushed)

/-- What the triage of the child leaves behind: no answer without evidence. -/
structure Triaged (options : SweeperOptions) (due : DueEntry) (caller : ExecutionRecord)
    (child : Option ExecutionRecord) (before after : RedisStore) : Prop where
  renewed : Renewed due before after
  replies : Silent before after ∨ Told due caller child before after ∧
    ∀ record, child = some record → ChildSpent options due before record

theorem Heard.triaged {caller : ExecutionRecord} {child : Option ExecutionRecord}
    {after : RedisStore} (heard : Heard due caller child store after)
    (spent : ∀ record, child = some record → ChildSpent options due store record) :
    Triaged options due caller child store after :=
  ⟨heard.renewed, heard.replies.imp_right fun told => ⟨told, spent⟩⟩

attribute [local irreducible] Task.wp in
theorem wp_triageChild {caller : ExecutionRecord} (kind : due.indexKey.isBackground = false) :
    (triageChild options due caller : Proc σ _).wp (Setting.alone clockServe)
      (fun outcome _ after => match recordOf store due.entry.childMessageId due.entry.sessionId with
        | .ok child => (∃ resolved, outcome = .ok resolved) ∧
            Triaged options due caller child store after
        | .error error => outcome = .error error ∧ after = store) memory store := by
  refine Task.wp_alone_bind (wp_recordOf ?_)
  cases recordOf store due.entry.childMessageId due.entry.sessionId with
  | error error => exact ⟨rfl, rfl⟩
  | ok found =>
      cases found with
      | none =>
          refine Task.wp_mono (wp_synthesizeFailure kind) ?_
          rintro outcome memory after - ⟨returned, heard⟩
          exact ⟨returned, heard.triaged fun record none => by cases none⟩
      | some child =>
          dsimp only
          have answered {outcome : Except JsError SweepOutcome} {after : RedisStore}
              (returned : ∃ resolved, outcome = .ok resolved)
              (heard : Heard due caller (some child) store after)
              (spent : ChildSpent options due store child) :
              (∃ resolved, outcome = .ok resolved) ∧
                Triaged options due caller (some child) store after :=
            ⟨returned, heard.triaged fun record same => by cases same; exact spent⟩
          split
          · rename_i terminal
            refine Task.wp_mono (wp_recoverFinishedChild kind terminal) ?_
            rintro outcome memory after - ⟨returned, heard⟩
            exact answered returned heard ⟨not_suspended_of_terminal terminal, .inl terminal⟩
          split
          · refine Task.wp_alone_bind (Task.wp_mono (wp_extendDeadline kind) ?_)
            rintro _ memory after - ⟨rfl, renewed, silent⟩
            exact Task.wp_alone_pure ⟨⟨_, rfl⟩, renewed, .inl silent⟩
          rename_i running
          rw [Bool.not_eq_true] at running
          split
          · rename_i unclaimed
            refine Task.wp_mono (wp_synthesizeFailure kind) ?_
            rintro outcome memory after - ⟨returned, heard⟩
            exact answered returned heard ⟨running, .inr (.inl unclaimed)⟩
          refine Task.wp_alone_bind (wp_onlineIn ?_)
          dsimp only
          split
          · refine Task.wp_alone_bind (wp_ceilingIn ?_)
            refine Task.wp_alone_bind (wp_dateNow_clock ?_)
            dsimp only
            split
            · refine Task.wp_alone_bind (Task.wp_mono (wp_extendDeadline kind) ?_)
              rintro _ memory after - ⟨rfl, renewed, silent⟩
              exact Task.wp_alone_pure ⟨⟨_, rfl⟩, renewed, .inl silent⟩
            · rename_i late
              refine Task.wp_alone_bind (Task.wp_mono (wp_synthesizeFailure kind) ?_)
              rintro _ memory after - ⟨⟨resolved, rfl⟩, heard⟩
              refine Task.wp_alone_bind (wp_cancelTimedOutChild fun _ memory last hushed => ?_)
              exact Task.wp_alone_pure (answered ⟨_, rfl⟩ (heard.hushed kind hushed)
                ⟨running, .inr (.inr (.inr (not_lt.mp late)))⟩)
          · rename_i offline
            rw [Bool.not_eq_true] at offline
            refine Task.wp_mono (wp_synthesizeFailure kind) ?_
            rintro outcome memory after - ⟨returned, heard⟩
            exact answered returned heard ⟨running, .inr (.inr (.inl offline))⟩

theorem wp_dropEntry {outcome : SweepOutcome} {post : Except JsError SweepOutcome → σ →
    RedisStore → Prop}
    (holds : ∀ after, Dropped due store after → Silent store after →
      post (.ok outcome) memory after) :
    (dropEntry due outcome : Proc σ _).wp (Setting.alone clockServe) post memory store := by
  refine Task.wp_alone_bind (wp_redis_clock (Task.wp_alone_pure (holds _ ?_ fun _ _ => rfl)))
  simp only [Dropped, Redis.Store.exec, Function.update_self]

theorem wp_groupBlocksCompensation {post : Except JsError (Option SweepOutcome) → σ →
    RedisStore → Prop}
    (blocks : ∀ outcome after, Dropped due store after → Silent store after →
      post (.ok (some outcome)) memory after)
    (waits : GroupWaits store due.entry → post (.ok none) memory store) :
    (groupBlocksCompensation due : Proc σ _).wp (Setting.alone clockServe) post memory store := by
  refine Task.wp_alone_bind (wp_redis_clock ?_)
  dsimp only [Redis.Store.exec, Except.mapError]
  split
  · refine Task.wp_alone_bind (wp_dropEntry fun after gone silent => ?_)
    exact Task.wp_alone_pure (blocks _ _ gone silent)
  rename_i total
  refine Task.wp_alone_bind (wp_redis_clock ?_)
  dsimp only [Redis.Store.exec, Except.mapError]
  split
  · refine Task.wp_alone_bind (wp_dropEntry fun after gone silent => ?_)
    exact Task.wp_alone_pure (blocks _ _ gone silent)
  rename_i aborted
  refine Task.wp_alone_bind (wp_redis_clock ?_)
  dsimp only [Redis.Store.exec, Except.mapError]
  split
  · refine Task.wp_alone_bind (wp_dropEntry fun after gone silent => ?_)
    exact Task.wp_alone_pure (blocks _ _ gone silent)
  · rename_i recorded
    refine Task.wp_alone_pure (waits ⟨?_, ?_, ?_⟩)
    · rw [Option.isNone_iff_eq_none] at total
      exact Option.isSome_iff_ne_none.mpr total
    · rw [Bool.not_eq_true] at aborted
      exact aborted
    · rw [Bool.not_eq_true, Option.isSome_eq_false_iff, Option.isNone_iff_eq_none] at recorded
      exact recorded

def AsksUser (due : DueEntry) (store : RedisStore) : Prop :=
  due.entry.childMessageId = "" ∧
    ∃ caller, recordOf store due.entry.parentMessageId due.entry.sessionId = .ok (some caller) ∧
      isSuspendedState (baseStatus caller.status) = true

/-- How the triage of an entry ends: a record that cannot be read ends it before it writes. -/
inductive Verdict (options : SweeperOptions) (due : DueEntry) (before : RedisStore) :
    Except JsError SweepOutcome → RedisStore → Prop where
  | removed {resolved : SweepOutcome} {after : RedisStore}
      (gone : Dropped due before after) (silent : Silent before after) :
      Verdict options due before (.ok resolved) after
  | raised {resolved : SweepOutcome} {after : RedisStore} (renewed : Renewed due before after)
      (silent : Silent before after) : Verdict options due before (.ok resolved) after
  | skipped (asks : AsksUser due before) :
      Verdict options due before (.ok .askUserSkipped) before
  | answered {resolved : SweepOutcome} {after : RedisStore} {caller : ExecutionRecord}
      {child : Option ExecutionRecord} (renewed : Renewed due before after)
      (answerable : Answerable options due before caller child)
      (told : Told due caller child before after) :
      Verdict options due before (.ok resolved) after
  | unread {error : JsError}
      (unreadable : recordOf before due.entry.parentMessageId due.entry.sessionId = .error error ∨
        recordOf before due.entry.childMessageId due.entry.sessionId = .error error) :
      Verdict options due before (.error error) before

theorem wp_resolveUnsuspendedCaller {caller : ExecutionRecord}
    (kind : due.indexKey.isBackground = false) :
    (resolveUnsuspendedCaller due caller : Proc σ _).wp (Setting.alone clockServe)
      (fun outcome _ after => Verdict options due store outcome after) memory store := by
  have decides : ∀ lost : Bool, (if lost then dropEntry due .callerLost else do
      extendDeadline due
      pure .callerNotSuspended : Proc σ _).wp (Setting.alone clockServe)
      (fun outcome _ after => Verdict options due store outcome after) memory store := by
    intro lost
    split
    · exact wp_dropEntry fun after gone silent => .removed gone silent
    · refine Task.wp_alone_bind (Task.wp_mono (wp_extendDeadline kind) ?_)
      rintro _ memory after - ⟨rfl, renewed, silent⟩
      exact Task.wp_alone_pure (.raised renewed silent)
  unfold resolveUnsuspendedCaller
  split
  · exact Task.wp_alone_bind (Task.wp_alone_pure (decides _))
  · exact Task.wp_alone_bind (wp_onlineIn (Task.wp_alone_bind (Task.wp_alone_pure (decides _))))

attribute [local irreducible] Task.wp in
theorem wp_resolveDecoded (kind : due.indexKey.isBackground = false) :
    (resolveDecoded options due : Proc σ _).wp (Setting.alone clockServe)
      (fun outcome _ after => Verdict options due store outcome after) memory store := by
  refine Task.wp_alone_bind (wp_recordOf ?_)
  cases called : recordOf store due.entry.parentMessageId due.entry.sessionId with
  | error error => exact .unread (.inl called)
  | ok found =>
      cases found with
      | none => exact wp_dropEntry fun after gone silent => .removed gone silent
      | some caller =>
          dsimp only
          split
          · exact wp_dropEntry fun after gone silent => .removed gone silent
          split
          · exact wp_resolveUnsuspendedCaller kind
          rename_i suspended
          have suspended : isSuspendedState (baseStatus caller.status) = true := by
            simpa using suspended
          split
          · rename_i asksUser
            exact Task.wp_alone_pure (.skipped ⟨asksUser, caller, called, suspended⟩)
          rename_i named
          have triage (group : due.entry.taskGroupId = "" ∨ GroupWaits store due.entry) :
              (triageChild options due caller : Proc σ _).wp (Setting.alone clockServe)
                (fun outcome _ after => Verdict options due store outcome after) memory store := by
            refine Task.wp_mono (wp_triageChild kind) ?_
            intro outcome memory after _ triaged
            cases asked : recordOf store due.entry.childMessageId due.entry.sessionId with
            | error error =>
                rw [asked] at triaged
                obtain ⟨rfl, rfl⟩ := triaged
                exact .unread (.inr asked)
            | ok child =>
                rw [asked] at triaged
                obtain ⟨⟨resolved, rfl⟩, renewed, replies⟩ := triaged
                rcases replies with silent | ⟨told, spent⟩
                · exact .raised renewed silent
                · exact .answered renewed ⟨called, suspended, named, group, asked, spent⟩ told
          split
          · rename_i alone
            exact Task.wp_alone_bind (Task.wp_alone_pure (triage (.inl alone)))
          · refine Task.wp_alone_bind (wp_groupBlocksCompensation ?_ ?_)
            · exact fun outcome after gone silent => Task.wp_alone_pure (.removed gone silent)
            · exact fun waits => triage (.inr waits)

end

/-! ### The partition -/

inductive Fate where
  | removed
  | kept
  | answered
deriving DecidableEq

def Raised (shard : Nat) (member : String) (score : Int) (before after : RedisStore) : Prop :=
  score < before.clock + waitRenewIncrementMs ∧
    after.score (.waitIndex shard) member = some (before.clock + waitRenewIncrementMs)

/-- What each fate of an entry does to it and to the streams, and on what evidence. -/
def Fate.Leaves (options : SweeperOptions) (shard : Nat) (member : String) (score : Int)
    (before after : RedisStore) : Fate → Prop
  | .removed => after.score (.waitIndex shard) member = none ∧ Silent before after
  | .kept => Silent before after ∧ (Raised shard member score before after ∨
      after.score (.waitIndex shard) member = some score ∧
        ∃ entry, decodeMember member = .ok entry ∧
          AsksUser ⟨.waitIndex shard, member, score, entry⟩ before)
  | .answered => Raised shard member score before after ∧
      ∃ entry caller child, decodeMember member = .ok entry ∧
        Answerable options ⟨.waitIndex shard, member, score, entry⟩ before caller child ∧
        Told ⟨.waitIndex shard, member, score, entry⟩ caller child before after

theorem Told.not_silent {due : DueEntry} {caller : ExecutionRecord}
    {child : Option ExecutionRecord} {before after : RedisStore}
    (told : Told due caller child before after) : ¬ Silent before after := by
  obtain ⟨reply, _, _, streams⟩ := told
  intro silent
  have sent := (silent (.ctrlStream reply.header.targetAgentType) rfl).symm.trans (streams _ rfl)
  rw [if_pos rfl] at sent
  exact absurd sent (by simp)

theorem Fate.Leaves.unique {options : SweeperOptions} {shard : Nat} {member : String}
    {score : Int} {before after : RedisStore} {fate other : Fate}
    (left : fate.Leaves options shard member score before after)
    (right : other.Leaves options shard member score before after) : fate = other := by
  have present {fate : Fate} (leaves : fate.Leaves options shard member score before after)
      (still : fate ≠ .removed) : after.score (.waitIndex shard) member ≠ none := by
    intro gone
    cases fate with
    | removed => exact still rfl
    | kept =>
        rcases leaves.2 with raised | untouched
        · rw [raised.2] at gone
          cases gone
        · rw [untouched.1] at gone
          cases gone
    | answered =>
        have raised := leaves.1.2
        rw [raised] at gone
        cases gone
  have quiet {fate : Fate} (leaves : fate.Leaves options shard member score before after)
      (unanswered : fate ≠ .answered) : Silent before after := by
    cases fate with
    | removed => exact leaves.2
    | kept => exact leaves.1
    | answered => exact absurd rfl unanswered
  have loud (leaves : Fate.answered.Leaves options shard member score before after) :
      ¬ Silent before after := by
    obtain ⟨_, entry, caller, child, _, _, told⟩ := leaves
    exact told.not_silent
  cases fate with
  | removed =>
      cases other with
      | removed => rfl
      | kept => exact absurd left.1 (present right (by decide))
      | answered => exact absurd left.1 (present right (by decide))
  | kept =>
      cases other with
      | removed => exact absurd right.1 (present left (by decide))
      | kept => rfl
      | answered => exact absurd (quiet left (by decide)) (loud right)
  | answered =>
      cases other with
      | removed => exact absurd (quiet right (by decide)) (loud left)
      | kept => exact absurd (quiet right (by decide)) (loud left)
      | answered => rfl

/-- The triage of a due entry has exactly one fate, unless a record of its caller or its child
cannot be read: then nothing is written. -/
theorem triage_partition (options : SweeperOptions) (shard : Nat) (member : String) (score : Int)
    (store : RedisStore) (listed : store.score (.waitIndex shard) member = some score)
    (due : score ≤ store.clock) {outcome : Except JsError SweepOutcome × Unit} {after : RedisStore}
    (ends : Prog.Ends clockServe ((resolveEntry options (.waitIndex shard) member score :
      Proc Unit _).start ()) store outcome after) :
    match outcome.1 with
    | .ok _ => ∃! fate : Fate, fate.Leaves options shard member score store after
    | .error error => after = store ∧ ∃ entry, decodeMember member = .ok entry ∧
        (recordOf store entry.parentMessageId entry.sessionId = .error error ∨
          recordOf store entry.childMessageId entry.sessionId = .error error) := by
  have single (fate : Fate) {after : RedisStore}
      (leaves : fate.Leaves options shard member score store after) :
      ∃! fate : Fate, fate.Leaves options shard member score store after :=
    ⟨fate, leaves, fun _ also => also.unique leaves⟩
  have late : score < store.clock + waitRenewIncrementMs := by
    have positive : 0 < waitRenewIncrementMs := by decide
    omega
  have fates : (resolveEntry options (.waitIndex shard) member score : Proc Unit _).wp
      (Setting.alone clockServe) (fun outcome _ after => match outcome with
        | .ok _ => ∃! fate : Fate, fate.Leaves options shard member score store after
        | .error error => after = store ∧ ∃ entry, decodeMember member = .ok entry ∧
            (recordOf store entry.parentMessageId entry.sessionId = .error error ∨
              recordOf store entry.childMessageId entry.sessionId = .error error)) () store := by
    unfold resolveEntry
    split
    · refine Task.wp_alone_bind (wp_redis_clock (Task.wp_alone_pure ?_))
      refine single .removed ⟨?_, fun _ _ => rfl⟩
      rw [Redis.Store.score_zrem, if_pos ⟨rfl, rfl⟩]
    · rename_i entry decoded
      refine Task.wp_mono (wp_resolveDecoded rfl) ?_
      intro outcome _ after _ verdict
      cases verdict with
      | removed gone silent => exact single .removed ⟨gone.score, silent⟩
      | raised renewed silent => exact single .kept ⟨silent, .inl ⟨late, renewed.score⟩⟩
      | skipped asks => exact single .kept ⟨fun _ _ => rfl, .inr ⟨listed, entry, decoded, asks⟩⟩
      | answered renewed answerable told =>
          exact single .answered ⟨⟨late, renewed.score⟩, entry, _, _, decoded, answerable, told⟩
      | unread unreadable => exact ⟨rfl, entry, decoded, unreadable⟩
  exact Task.wp_ends ends fates

def lostCallStore : RedisStore :=
  ((answeredStore "").exec (.zadd (answeredDue "").indexKey (answeredDue "").member 1000)).2.advance
    2000

theorem triage_partition_lost : ∃ outcome after,
    Prog.Ends clockServe ((resolveEntry auditor (.waitIndex (waitIndexShard "session"))
      (answeredDue "").member 1000 : Proc Unit _).start ()) lostCallStore outcome after ∧
    outcome.1 = .ok .workerLost ∧ ∃! fate : Fate, fate.Leaves auditor (waitIndexShard "session")
      (answeredDue "").member 1000 lostCallStore after := by
  have ends := Prog.ends_run redisAnswer_clocked ((resolveEntry auditor
    (.waitIndex (waitIndexShard "session")) (answeredDue "").member 1000 : Proc Unit _).start ())
    lostCallStore
  have returned : (Prog.run redisAnswer ((resolveEntry auditor
      (.waitIndex (waitIndexShard "session")) (answeredDue "").member 1000 :
      Proc Unit _).start ()) lostCallStore).1.1 = .ok .workerLost := by
    decide +kernel
  have fate := triage_partition auditor (waitIndexShard "session") (answeredDue "").member 1000
    lostCallStore (by decide +kernel) (by decide +kernel) ends
  rw [returned] at fate
  exact ⟨_, _, ends, returned, fate⟩

end ByFramework
