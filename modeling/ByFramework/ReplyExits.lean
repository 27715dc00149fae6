import ByFramework.ReplyLog

/-! How often the caller was answered at each of the places where a message can end. -/

namespace ByFramework

open Async

/-! ### The exits of a message -/

section Exits

variable {worker : GatewayWorker} {command : GatewayCommand} {options : HandleMessageOptions}
  {reply : GatewayCommand} {run : MessageRun} {log : ReplyLog} {suspended : Bool}

structure ReplyLog.Fresh (log : ReplyLog) : Prop where
  replies : log.replies = 0
  answered : log.answered = false
  groupExpired : log.groupExpired = false
  failsLate : log.failsLate = false

theorem hook_noted {origin : MessageHeader} {name : String} (other : name ≠ "onTaskComplete") :
    log.note origin (.hook name) ⟨⟩ = log := by
  simp only [ReplyLog.note, other, if_false]

theorem returnToCaller_log (owed : reply.header.sourceAgentType ≠ "") (result : AgentTaskResult)
    (held : run.context.isSuspended = suspended) :
    (GatewayWorker.returnToCaller worker reply result).wp (replySetting reply.header)
      (fun outcome after later => after.context.isSuspended = suspended ∧ match outcome with
        | .ok _ => later = log.replied
        | .error _ => later = log) run log := by
  refine Task.wp_alone_bind (Task.wp_alone_modify ?_)
  refine Task.wp_alone_bind (wp_hook_log ?_)
  rw [hook_noted (by decide)]
  refine Task.wp_alone_tryCatch (Task.wp_alone_bind
    (Task.wp_mono (enqueueAgentReturn_log _ _ _ owed) ?_))
  rintro outcome after later - ⟨rfl, sent⟩
  cases outcome with
  | ok done =>
      refine wp_hook_log ?_
      rw [hook_noted (by decide)]
      exact ⟨held, sent⟩
  | error error =>
      refine Task.wp_alone_bind (wp_hook_log ?_)
      rw [hook_noted (by decide)]
      exact Task.wp_alone_throw ⟨held, sent.1⟩

theorem notifyCaller_log (owed : reply.header.sourceAgentType ≠ "") {status : String}
    (named : status ≠ "") (replyData : JsonValue)
    (held : run.context.isSuspended = suspended) :
    (GatewayWorker.notifyCaller worker reply status replyData).wp (replySetting reply.header)
      (fun outcome after later => outcome = .ok ⟨⟩ ∧ after.context.isSuspended = suspended ∧
        later = log.replied) run log := by
  refine Task.wp_alone_bind (wp_hook_log ?_)
  rw [hook_noted (by decide)]
  refine Task.wp_alone_tryCatch (Task.wp_alone_bind
    (Task.wp_mono (enqueueAgentReturn_log _ _ _ owed) ?_))
  rintro outcome after later - ⟨rfl, sent⟩
  cases outcome with
  | ok done =>
      refine wp_hook_log ?_
      rw [hook_noted (by decide)]
      exact ⟨rfl, held, sent⟩
  | error error => exact absurd sent.2 named

theorem isExecField_execField (executionId : String) : isExecField (execField executionId) = true := by
  simp [isExecField, execField]

theorem getExecution_listens {origin : MessageHeader} {σ : Type} {memory : σ}
    (executionId sessionId : String) :
    (getExecution executionId sessionId : Proc σ _).wp (replySetting origin)
      (fun outcome after later => after = memory ∧ later = log ∧ ∃ found, outcome = .ok found ∧
        (found.map ExecutionRecord.cancelRequested).getD false = false) memory log := by
  unfold getExecution
  split
  · exact Task.wp_alone_pure ⟨rfl, rfl, none, rfl, rfl⟩
  · refine Task.wp_alone_bind (wp_redis_log ?_)
    intro read weather
    cases read with
    | error message => exact absurd weather id
    | ok found =>
        cases found with
        | none => exact Task.wp_alone_pure ⟨rfl, rfl, none, rfl, rfl⟩
        | some value =>
            cases value with
            | text text =>
                have field : isExecField (execField executionId) = false := weather
                rw [isExecField_execField] at field
                cases field
            | execution record =>
                exact Task.wp_alone_pure ⟨rfl, rfl, some record, rfl, weather⟩
            | _ => exact absurd weather id

theorem callerListens_log {origin : MessageHeader}
    (held : run.context.isSuspended = suspended) :
    (GatewayWorker.callerListens command reply).wp (replySetting origin)
      (fun outcome after later => outcome = .ok true ∧ after.context.isSuspended = suspended ∧
        later = log) run log := by
  unfold GatewayWorker.callerListens
  split
  · exact Task.wp_alone_pure ⟨rfl, held, rfl⟩
  · have listens : (getExecutionByMessageId reply.header.parentMessageId command.header.sessionId :
        Proc MessageRun _).wp (replySetting origin)
        (fun outcome after later => after = run ∧ later = log ∧ ∃ found, outcome = .ok found ∧
          (found.map ExecutionRecord.cancelRequested).getD false = false) run log := by
      unfold getExecutionByMessageId
      split
      · exact Task.wp_alone_pure ⟨rfl, rfl, none, rfl, rfl⟩
      · refine Task.wp_alone_bind (wp_redis_log ?_)
        intro read weather
        cases read with
        | error message => exact absurd weather id
        | ok found =>
            dsimp only [Except.mapError]
            split
            · exact Task.wp_alone_pure ⟨rfl, rfl, none, rfl, rfl⟩
            · exact getExecution_listens _ _
    refine Task.wp_alone_bind (Task.wp_mono listens ?_)
    rintro outcome after later - ⟨rfl, rfl, found, rfl, uncancelled⟩
    refine Task.wp_alone_pure ⟨?_, held, rfl⟩
    rw [uncancelled]
    rfl

theorem recover_log (replies : GatewayWorker.replyCommand command options = some reply)
    (owed : reply.header.sourceAgentType ≠ "")
    (held : run.context.isSuspended = suspended) (error : JsError) :
    (GatewayWorker.recover worker command options error).wp (replySetting reply.header)
      (fun outcome after later => after.context.isSuspended = suspended ∧
        (∀ result, outcome = .ok result → isTerminalState result.status = true) ∧
        (later = log.replied ∨ later = log.replied.fails)) run log := by
  have ends (status : String) (terminal : isTerminalState status = true) :
      ∀ after : MessageRun, after.context.isSuspended = suspended →
        (GatewayWorker.endFailedStream command options >>= fun _ =>
          pure { status := status } : Proc MessageRun AgentTaskResult).wp
          (replySetting reply.header) (fun outcome after later =>
            after.context.isSuspended = suspended ∧
            (∀ result, outcome = .ok result → isTerminalState result.status = true) ∧
            (later = log.replied ∨ later = log.replied.fails)) after log.replied := by
    intro after still
    refine Task.wp_alone_bind (Task.wp_mono
      (emits_endFailedStream command options after log.replied still) ?_)
    rintro outcome last noted - ⟨kept, same⟩
    cases outcome with
    | ok done =>
        refine Task.wp_alone_pure ⟨kept, ?_, .inl same⟩
        rintro result ⟨⟩
        exact terminal
    | error error => exact ⟨kept, nofun, .inr same⟩
  unfold GatewayWorker.recover
  refine Task.wp_alone_bind (Task.wp_alone_await ?_)
  rintro _ after ⟨-, rfl⟩
  dsimp only
  unfold GatewayWorker.reportError
  split
  · unfold GatewayWorker.reportCancelled
    simp only [replies]
    refine Task.wp_alone_bind (Task.wp_alone_bind (Task.wp_mono (callerListens_log held) ?_))
    rintro outcome after later - ⟨rfl, still, rfl⟩
    refine Task.wp_alone_when (fun _ => ?_) (fun deaf => absurd rfl deaf)
    refine Task.wp_mono (notifyCaller_log owed (by decide) _ still) ?_
    rintro outcome last noted - ⟨rfl, kept, rfl⟩
    exact ends _ (by decide) last kept
  · unfold GatewayWorker.reportFailed
    simp only [replies]
    refine Task.wp_alone_bind (Task.wp_mono (notifyCaller_log owed (by decide) _ held) ?_)
    rintro outcome after later - ⟨rfl, still, rfl⟩
    refine Task.wp_alone_bind (wp_hook_log ?_)
    rw [hook_noted (by decide)]
    exact ends _ (by decide) after still

structure AgentContext.Idle (context : AgentContext) : Prop where
  notSuspended : context.isSuspended = false
  awaitsNothing : context.suspendedState = ""
  nothingQueued : context.pendingGroupReplies = []

def MessageRun.Idle (run : MessageRun) : Prop := run.context.Idle

/-- The reply met its group: early ends are those of an expired one, or leave the caller be. -/
def Joined (outcome : Except JsError (Option AgentTaskResult)) (log : ReplyLog) : Prop :=
  match outcome with
  | .ok (some early) => log.joinedEarly = true ∨ (log.groupExpired = true ∧ log.replies = 0 ∧
      log.failsLate = false ∧ isTerminalState early.status = true)
  | _ => log.Fresh

theorem note_total {origin : MessageHeader} (groupId : String) (found : Option Value) :
    log.note origin (.redis (.hget (.taskGroup groupId) taskGroupFieldTotal)) (.ok found) =
      { log with total := found, groupExpired := log.groupExpired || found.isNone } := by
  simp [ReplyLog.note, ReplyLog.readsGroup]

theorem note_aborted {origin : MessageHeader} (groupId : String) (found : Option Value) :
    log.note origin (.redis (.hget (.taskGroup groupId) taskGroupFieldAborted)) (.ok found) =
      { log with joinedEarly := log.joinedEarly || found.any Value.truthy } := by
  have other : taskGroupFieldAborted ≠ taskGroupFieldTotal := by decide
  simp [ReplyLog.note, ReplyLog.readsGroup, other]

theorem joinGroup_log {origin : MessageHeader} (resume : ResumeCommand) (fresh : log.Fresh) :
    (joinGroup resume : Proc MessageRun _).wp (replySetting origin)
      (fun outcome after later => after = run ∧ Joined outcome later) run log := by
  refine Task.wp_alone_bind (wp_redis_log ?_)
  intro total _
  cases total with
  | error message => exact ⟨rfl, fresh⟩
  | ok total =>
      rw [note_total]
      cases total with
      | none =>
          have terminal : isTerminalState AgentState.failed = true := by decide
          refine Task.wp_alone_pure ⟨rfl, .inr ⟨?_, fresh.replies, fresh.failsLate, terminal⟩⟩
          simp
      | some total =>
          refine Task.wp_alone_bind (wp_redis_log ?_)
          intro aborted _
          have live : ({ log with
              total := some total
              groupExpired := log.groupExpired || false } : ReplyLog).Fresh :=
            ⟨fresh.replies, fresh.answered, by simpa using fresh.groupExpired, fresh.failsLate⟩
          cases aborted with
          | error message => exact ⟨rfl, live⟩
          | ok aborted =>
              rw [note_aborted]
              dsimp only [Except.mapError]
              split
              · rename_i gone
                refine Task.wp_alone_pure ⟨rfl, .inl ?_⟩
                simp [gone]
              · refine Task.wp_alone_bind (wp_redis_log ?_)
                intro stored _
                cases stored with
                | error message => exact ⟨rfl, ⟨live.1, live.2, live.3, live.4⟩⟩
                | ok stored =>
                    refine Task.wp_alone_bind (wp_redis_log ?_)
                    intro refreshed _
                    cases refreshed with
                    | error message => exact ⟨rfl, ⟨live.1, live.2, live.3, live.4⟩⟩
                    | ok refreshed =>
                        refine Task.wp_alone_bind (wp_redis_log ?_)
                        intro completed _
                        cases completed with
                        | error message => exact ⟨rfl, ⟨live.1, live.2, live.3, live.4⟩⟩
                        | ok completed =>
                            dsimp only [Except.mapError]
                            split
                            · rename_i waits
                              refine Task.wp_alone_pure ⟨rfl, .inl ?_⟩
                              simp only [ReplyLog.note, ReplyLog.counts, Option.bind_some, waits,
                                Bool.or_true]
                            · exact Task.wp_alone_pure ⟨rfl, ⟨live.1, live.2, live.3, live.4⟩⟩

theorem prepare_log {origin : MessageHeader} (idle : run.Idle) (fresh : log.Fresh) :
    (GatewayWorker.prepare worker command options).wp (replySetting origin)
      (fun outcome after later => after.Idle ∧ Joined outcome later) run log := by
  have ofSetup (op : Op) (sets : op.ofSetup = true) : (withoutReply origin).allowed op := by
    intro log reply unanswered _
    unfold Op.ofSetup at sets
    split at sets
    · cases reply with
      | ok done => rfl
      | error error => exact fails_of_unanswered unanswered
    · rfl
    · rfl
    · rfl
    · cases sets
  have quietly {task : Proc MessageRun PUnit} {next : PUnit → Proc MessageRun
      (Option AgentTaskResult)} (uses : task.Uses (withoutReply origin) MessageRun.Idle)
      {before : MessageRun} {noted : ReplyLog} (held : before.Idle) (unsent : noted.Fresh)
      (rest : ∀ after : MessageRun, after.Idle → (next ⟨⟩).wp (replySetting origin)
        (fun outcome after later => after.Idle ∧ Joined outcome later) after noted) :
      (task >>= next).wp (replySetting origin)
        (fun outcome after later => after.Idle ∧ Joined outcome later) before noted := by
    refine Task.wp_alone_bind (Task.wp_mono (wp_withoutReply uses held unsent.answered) ?_)
    rintro outcome after later - ⟨kept, rfl⟩
    cases outcome with
    | ok done => exact rest after kept
    | error error => exact ⟨kept, unsent⟩
  have rejoins (resume : ResumeCommand) : ∀ before : MessageRun, before.Idle →
      (GatewayWorker.rejoin resume).wp (replySetting origin)
        (fun outcome after later => after.Idle ∧ Joined outcome later) before log := by
    intro before held
    refine quietly (GatewayWorker.persistAgentReturnState_setup ofSetup resume) held fresh
      fun run kept => ?_
    have joins : (if resume.header.taskGroupId = "" then pure none else joinGroup resume :
        Proc MessageRun _).wp (replySetting origin)
        (fun outcome after later => after = run ∧ Joined outcome later) run log := by
      split
      · exact Task.wp_alone_pure ⟨rfl, fresh⟩
      · exact joinGroup_log resume fresh
    refine Task.wp_alone_bind (Task.wp_mono joins ?_)
    rintro outcome after later - ⟨rfl, joined⟩
    cases outcome with
    | error error => exact ⟨kept, joined⟩
    | ok early =>
        cases early with
        | some result => exact Task.wp_alone_pure ⟨kept, joined⟩
        | none =>
            have shows : Emits origin MessageRun.Idle
                (MessageRun.onContext (AgentContext.emitState AgentState.resumed)) :=
              emits_focus (emits_get_bind fun _ _ => emits_emitLayout _ _)
                (fun _ held => held) fun _ _ _ inner => inner
            refine Task.wp_alone_bind (Task.wp_mono (shows after later kept) ?_)
            rintro outcome last noted - ⟨still, same⟩
            cases outcome with
            | ok done =>
                subst same
                exact Task.wp_alone_pure ⟨still, joined⟩
            | error error =>
                rw [fails_of_unanswered joined.answered] at same
                subst same
                exact ⟨still, joined⟩
  refine Task.wp_alone_bind (wp_hook_log ?_)
  rw [hook_noted (by decide)]
  refine quietly (GatewayWorker.saveUserMessage_setup ofSetup command) idle fresh fun run kept => ?_
  refine quietly (GatewayWorker.setupWorkspace_setup ofSetup worker command
    fun _ idle => idle) kept fresh fun run kept => ?_
  refine quietly (GatewayWorker.assertNotCancelled_setup ofSetup worker options) kept fresh
    fun run kept => ?_
  split
  · exact rejoins _ run kept
  · exact Task.wp_alone_pure ⟨kept, fresh⟩

/-! ### The handler and what follows it -/

/-- No queued stand-in is taken for the reply of this execution, and what a suspended run waits
for is not an end. -/
structure Underway (origin : MessageHeader) (context : AgentContext) : Prop where
  unmistaken : ∀ reply ∈ context.pendingGroupReplies,
    reply.header.parentMessageId ≠ origin.messageId
  waiting : context.suspendedState = "" ∨ isTerminalState context.suspendedState = false

theorem underway_keeps (origin : MessageHeader) :
    HandlerKeeps (withoutReply origin) (Underway origin) where
  permits op called _ := withoutReply_handler op called
  files _ _ _ _ := ⟨withoutReply_handler _ rfl, withoutReply_handler _ rfl⟩
  notes before after held notes := by
    constructor
    · intro reply listed
      rw [notes.pendingGroupReplies] at listed
      exact held.unmistaken reply listed
    · rw [notes.suspendedState]
      exact held.waiting
  suspends context state held listed := by
    refine ⟨held.unmistaken, .inr ?_⟩
    simp only [List.mem_cons, List.not_mem_nil, or_false] at listed
    rcases listed with rfl | rfl
    · exact show isTerminalState AgentState.waitingAgent = false from by decide
    · exact show isTerminalState AgentState.waitingUser = false from by decide
  queues context reply id held fresh named := by
    refine ⟨?_, held.waiting⟩
    intro queued listed
    rcases List.mem_append.mp listed with earlier | added
    · exact held.unmistaken queued earlier
    · rw [List.mem_singleton.mp added, named]
      exact fresh

theorem runHandler_withoutReply (origin : MessageHeader) :
    (GatewayWorker.runHandler worker command options).Uses (withoutReply origin)
      fun run => Underway origin run.context := by
  refine Task.uses_bind Task.uses_get fun run => ?_
  refine Task.uses_bind (Task.uses_await fun _ _ _ _ => rfl) fun _ => ?_
  have handles : (MessageRun.onContext (worker.processCommand
      (restoreInboundMetadata command options.existingData) run.context).run).Uses
      (withoutReply origin) fun run => Underway origin run.context :=
    Task.uses_focus (Handler.run_uses (underway_keeps origin) _) (fun _ held => held)
      fun _ _ _ kept => kept
  refine Task.uses_bind (Task.uses_attempt handles) fun outcome => ?_
  exact Task.uses_bind (Task.uses_await fun _ _ _ _ => rfl) fun _ => uses_orThrow outcome

theorem flushPendingGroupReplies_withoutReply {origin : MessageHeader} {σ : Type}
    {inv : σ → Prop} {replies : List ResumeCommand}
    (others : ∀ reply ∈ replies, reply.header.parentMessageId ≠ origin.messageId) :
    (flushPendingGroupReplies replies : Proc σ PUnit).Uses (withoutReply origin) inv := by
  refine Task.uses_forEach _ fun reply listed => Task.uses_failSoft ?_
  refine uses_redis_bind ?_ fun _ _ => Task.uses_pure _
  intro log answer _ _
  cases answer with
  | ok id =>
      have other : isReplyTo origin (.ctrlStream reply.header.targetAgentType) reply = false := by
        simp [isReplyTo, others reply listed]
      simp only [ReplyLog.note, ReplyLog.appends, other]
      rfl
  | error message => rfl

def owes (context : AgentContext) (status : String) : Nat :=
  if context.isSuspended && !isTerminalState status then 0 else 1

theorem applySuspendedStatus_owes {origin : MessageHeader} {context : AgentContext}
    (underway : Underway origin context) (result : AgentTaskResult) (other : AgentContext) :
    owes other (applySuspendedStatus result context).status = owes other result.status := by
  unfold applySuspendedStatus
  split
  · rfl
  · rename_i waits
    have unfinished : isTerminalState result.status = false := by
      simpa using (not_or.mp waits).2
    have waiting := underway.waiting.resolve_left (not_or.mp waits).1
    simp only [owes, unfinished, waiting]

theorem reportResult_log (replies : GatewayWorker.replyCommand command options = some reply)
    (owed : reply.header.sourceAgentType ≠ "") (underway : Underway reply.header run.context)
    (normalized : AgentTaskResult) (fresh : log.Fresh) :
    (GatewayWorker.reportResult worker command options normalized).wp (replySetting reply.header)
      (fun outcome after later => after.context.isSuspended = run.context.isSuspended ∧
        match outcome with
        | .ok result => later = { log with replies := owes run.context result.status }
        | .error _ => later = log) run log := by
  have none_sent : log = { log with replies := 0 } := by
    rw [← fresh.replies]
  have one_sent : log.replied = { log with replies := 1 } := by
    simp only [ReplyLog.replied, fresh.replies]
  refine Task.wp_alone_bind (Task.wp_alone_get ?_)
  dsimp only
  rw [replies]
  refine Task.wp_alone_bind (Task.wp_alone_when (fun sends => ?_) fun waits => ?_)
  · refine Task.wp_mono (returnToCaller_log owed _ rfl) ?_
    rintro outcome after later - ⟨still, sent⟩
    cases outcome with
    | ok done =>
        refine Task.wp_alone_pure ⟨still, ?_⟩
        have one : owes run.context normalized.status = 1 := by
          have settled : (run.context.isSuspended && !isTerminalState normalized.status) = false := by
            simpa only [Bool.not_eq_true'] using sends
          rw [owes, settled]
          rfl
        dsimp only
        rw [applySuspendedStatus_owes underway, one, ← one_sent]
        exact sent
    | error error => exact ⟨still, sent⟩
  · refine Task.wp_alone_pure ⟨rfl, ?_⟩
    have zero : owes run.context normalized.status = 0 := by
      rw [owes, if_pos (by simpa using waits)]
    dsimp only
    rw [applySuspendedStatus_owes underway, zero]
    exact none_sent

def Processed (outcome : Except JsError AgentTaskResult) (run : MessageRun) (log : ReplyLog) :
    Prop :=
  match outcome with
  | .ok result =>
      (log.groupExpired = true ∧ log.replies = 0 ∧ owes run.context result.status = 1) ∨
        (log.groupExpired = false ∧ log.failsLate = false ∧
          log.replies = owes run.context result.status)
  | .error _ => log.groupExpired = false ∧
      (log.replies = 0 ∧ log.failsLate = false ∧ log.answered = false ∨
        log.replies = 1 ∧ log.failsLate = true)

theorem processed_of_fresh {run : MessageRun} (fresh : log.Fresh) (error : JsError) :
    Processed (.error error) run log :=
  ⟨fresh.groupExpired, .inl ⟨fresh.replies, fresh.failsLate, fresh.answered⟩⟩

theorem owes_cases (context : AgentContext) (status : String) :
    owes context status = 0 ∨ owes context status = 1 := by
  unfold owes
  split
  · exact .inl rfl
  · exact .inr rfl

theorem finish_log {result : AgentTaskResult} (fresh : log.Fresh) (before : MessageRun)
    (same : run.context.isSuspended = before.context.isSuspended) :
    (do
      hook "onTaskComplete"
      GatewayWorker.emitFinalAnswer (finalMessage result)
      GatewayWorker.endStream command options result.status
      pure { result with finalAnswer := (finalMessage result).getD "" } :
      Proc MessageRun AgentTaskResult).wp (replySetting reply.header)
      (fun outcome after later => Processed outcome after later) run
      { log with replies := owes before.context result.status } := by
  have failed {sent : ReplyLog} (after : MessageRun) (error : JsError)
      (completed : sent = { log with
        replies := owes before.context result.status
        answered := decide (0 < owes before.context result.status) }) :
      Processed (.error error) after sent.fails := by
    subst completed
    refine ⟨fresh.groupExpired, ?_⟩
    rcases owes_cases before.context result.status with none | one
    · left
      simp [ReplyLog.fails, none, fresh.failsLate]
    · right
      simp [ReplyLog.fails, one]
  refine Task.wp_alone_bind (wp_hook_log ?_)
  dsimp only [ReplyLog.note]
  rw [if_pos rfl]
  refine Task.wp_alone_bind (Task.wp_mono (emits_emitFinalAnswer _ _ _ same) ?_)
  rintro outcome after later - ⟨still, noted⟩
  cases outcome with
  | error error =>
      rw [noted]
      exact failed after error rfl
  | ok done =>
      subst noted
      refine Task.wp_alone_bind (Task.wp_mono (emits_endStream _ _ _ _ _ still) ?_)
      rintro outcome last noted - ⟨kept, unchanged⟩
      cases outcome with
      | error error =>
          rw [unchanged]
          exact failed last error rfl
      | ok done =>
          subst unchanged
          refine Task.wp_alone_pure (.inr ⟨fresh.groupExpired, fresh.failsLate, ?_⟩)
          have suspended : last.context.isSuspended = before.context.isSuspended := kept
          simp only [owes, suspended]

theorem takePendingGroupReplies_log {origin : MessageHeader}
    (underway : Underway origin run.context) :
    (MessageRun.onContext AgentContext.takePendingGroupReplies).wp (replySetting origin)
      (fun outcome after later => later = log ∧ Underway origin after.context ∧ ∃ queued,
        outcome = .ok queued ∧
          ∀ other ∈ queued, other.header.parentMessageId ≠ origin.messageId) run log := by
  refine Task.wp_focus (Task.wp_alone_bind (Task.wp_alone_get ?_)) trivial
  refine Task.wp_alone_bind (Task.wp_alone_modify (Task.wp_alone_pure ?_))
  exact ⟨rfl, ⟨fun _ listed => absurd listed (by simp), underway.waiting⟩, _, rfl,
    underway.unmistaken⟩

theorem afterHandler_log (replies : GatewayWorker.replyCommand command options = some reply)
    (owed : reply.header.sourceAgentType ≠ "") (underway : Underway reply.header run.context)
    (fresh : log.Fresh) (value : HandlerValue) :
    (GatewayWorker.afterHandler worker command options value).wp (replySetting reply.header)
      (fun outcome after later => Processed outcome after later) run log := by
  refine Task.wp_alone_bind (Task.wp_mono (takePendingGroupReplies_log underway) ?_)
  rintro outcome run noted - ⟨rfl, underway, queued, rfl, others⟩
  have flushes : (flushPendingGroupReplies queued : Proc MessageRun PUnit).Uses
      (withoutReply reply.header) fun run => Underway reply.header run.context :=
    flushPendingGroupReplies_withoutReply others
  refine Task.wp_alone_bind (Task.wp_mono (wp_withoutReply flushes underway fresh.answered) ?_)
  rintro outcome run last - ⟨underway, rfl⟩
  cases outcome with
  | error error => exact processed_of_fresh fresh error
  | ok done =>
      dsimp only
      cases normalizeProcessResult value with
      | error error =>
          exact Task.wp_alone_bind (Task.wp_alone_throw (processed_of_fresh fresh error))
      | ok normalized =>
          refine Task.wp_alone_bind (Task.wp_alone_pure ?_)
          refine Task.wp_alone_bind (Task.wp_mono
            (reportResult_log replies owed underway normalized fresh) ?_)
          rintro outcome last noted - ⟨same, sent⟩
          cases outcome with
          | error error =>
              subst sent
              exact processed_of_fresh fresh error
          | ok result =>
              subst sent
              exact finish_log fresh run same

theorem processMessage_log (replies : GatewayWorker.replyCommand command options = some reply)
    (owed : reply.header.sourceAgentType ≠ "") (idle : run.Idle) (fresh : log.Fresh) :
    (GatewayWorker.processMessage worker command options).wp (replySetting reply.header)
      (fun outcome after later => later.joinedEarly = true ∨ Processed outcome after later)
      run log := by
  refine Task.wp_alone_bind (Task.wp_mono (prepare_log idle fresh) ?_)
  rintro outcome after later - ⟨still, joined⟩
  cases outcome with
  | error error => exact .inr (processed_of_fresh joined error)
  | ok early =>
      cases early with
      | some result =>
          refine Task.wp_alone_pure ?_
          rcases joined with left | ⟨expired, unsent, -, terminal⟩
          · exact .inl left
          · refine .inr (.inl ⟨expired, unsent, ?_⟩)
            simp only [owes, terminal, Bool.not_true, Bool.and_false]
            rfl
      | none =>
          have fresh : later.Fresh := joined
          have underway : Underway reply.header after.context := by
            constructor
            · rw [still.nothingQueued]
              exact fun _ listed => absurd listed (by simp)
            · exact .inl still.awaitsNothing
          refine Task.wp_alone_bind (Task.wp_mono (wp_withoutReply
            (runHandler_withoutReply reply.header) underway fresh.answered) ?_)
          rintro outcome after later - ⟨underway, rfl⟩
          cases outcome with
          | error error => exact .inr (processed_of_fresh fresh error)
          | ok value =>
              refine Task.wp_mono (afterHandler_log replies owed underway fresh value) ?_
              exact fun _ _ _ _ processed => .inr processed

end Exits

end ByFramework
