import ByFramework.ReplyExits

/-!
How many replies the handling of one message sends to its caller, on every one of its exits and
whatever the data plane and the history answer.
-/

namespace ByFramework

open Async

/-! ### The obligation -/

/-- The number of replies a message owes, by how it ended and the context it left: an execution
that stays suspended owes none, any other owes one. -/
def repliesOwed (outcome : Except JsError AgentTaskResult) (context : Option AgentContext) : Nat :=
  match outcome, context with
  | .ok result, some context => owes context result.status
  | _, _ => 1

theorem resolveReplyCommand_owed {command reply : GatewayCommand}
    {existing : Option ExecutionRecord}
    (resolved : resolveReplyCommand command existing = some reply) :
    reply.header.sourceAgentType ≠ "" := by
  cases command with
  | resume resume =>
      cases existing with
      | none => cases resolved
      | some snapshot =>
          simp only [resolveReplyCommand] at resolved
          split at resolved
          · cases resolved
          · rename_i called
            cases resolved
            exact (not_or.mp called).1
  | askAgent ask | cancelTask ask | suspendWorker ask | resumeWorker ask | evictWorker ask =>
      simp only [resolveReplyCommand] at resolved
      split at resolved
      · cases resolved
      · cases resolved
        assumption

/-- The reading of a finished message: it sent what it owes unless it met one of two faults. -/
def Obliges (outcome : Except JsError AgentTaskResult) (context : Option AgentContext)
    (log : ReplyLog) : Prop :=
  log.joinedEarly = false → (log.replies = repliesOwed outcome context ↔
    log.groupExpired = false ∧ log.failsLate = false)

theorem cleanupTask_log {origin : MessageHeader} {run : MessageRun} {log : ReplyLog}
    (command : GatewayCommand) :
    (GatewayWorker.cleanupTask command).wp (replySetting origin)
      (fun outcome after later => outcome = .ok ⟨⟩ ∧ after = run ∧ later = log) run log := by
  refine Task.wp_alone_bind (Task.wp_alone_get (Task.wp_alone_when (fun _ => ?_) fun _ => ?_))
  · refine Task.wp_alone_bind (Task.wp_alone_await ?_)
    rintro reply after ⟨cleaned, rfl⟩
    change reply = .ok () at cleaned
    subst cleaned
    exact Task.wp_alone_pure ⟨rfl, rfl, rfl⟩
  · exact ⟨rfl, rfl, rfl⟩

theorem obliges_of_processed {result : AgentTaskResult} {run : MessageRun} {log : ReplyLog}
    (processed : log.joinedEarly = true ∨ Processed (.ok result) run log) :
    Obliges (.ok result) (some run.context) log := by
  intro joins
  have owing : repliesOwed (.ok result) (some run.context) = owes run.context result.status := rfl
  rw [owing]
  rcases processed with early | ⟨expired, unsent, one⟩ | ⟨live, kept, sent⟩
  · rw [joins] at early
    cases early
  · rw [unsent, one, expired]
    simp
  · rw [sent, live, kept]
    simp

theorem obliges_of_recovered {outcome : Except JsError AgentTaskResult} {error : JsError}
    {before run : MessageRun} {log later : ReplyLog}
    (processed : log.joinedEarly = true ∨ Processed (.error error) before log)
    (terminal : ∀ result, outcome = .ok result → isTerminalState result.status = true)
    (reported : later = log.replied ∨ later = log.replied.fails) :
    Obliges outcome (some run.context) later := by
  have owing : repliesOwed outcome (some run.context) = 1 := by
    cases outcome with
    | error error => rfl
    | ok result => simp only [repliesOwed, owes, terminal result rfl, Bool.not_true, Bool.and_false,
        Bool.false_eq_true, if_false]
  intro joins
  rw [owing]
  have unjoined : log.joinedEarly = false := by
    rcases reported with rfl | rfl
    · exact joins
    · exact joins
  rcases processed with early | ⟨live, ⟨unsent, kept, unanswered⟩ | ⟨sent, late⟩⟩
  · rw [unjoined] at early
    cases early
  · rcases reported with rfl | rfl
    · simp [ReplyLog.replied, unsent, live, kept]
    · simp [ReplyLog.fails, ReplyLog.replied, unsent, live, kept, unanswered]
  · rcases reported with rfl | rfl
    · simp [ReplyLog.replied, sent, late]
    · simp [ReplyLog.fails, ReplyLog.replied, sent, late]

/-- A message sends its caller exactly what it owes if and only if its Task Group, if it joins
one, has not expired, and no write fails once its reply is out and its task complete. -/
theorem reply_obligation_iff (worker : GatewayWorker) (command reply : GatewayCommand)
    (options : HandleMessageOptions) (shown : Option AgentContext)
    (resolved : resolveReplyCommand command options.existingData = some reply) :
    (worker.handleMessage command options).wp (replySetting reply.header)
      Obliges shown {} := by
  have owed := resolveReplyCommand_owed resolved
  have traced : (if command.header.traceId = "" then plainId else pure command.header.traceId :
      Proc (Option AgentContext) String).wp (replySetting reply.header)
      (fun outcome _ log => log = {} ∧ ∃ traceId, outcome = .ok traceId) shown {} := by
    split
    · refine Task.wp_alone_bind (Task.wp_alone_await ?_)
      rintro id after ⟨-, rfl⟩
      exact Task.wp_alone_pure ⟨rfl, _, rfl⟩
    · exact Task.wp_alone_pure ⟨rfl, _, rfl⟩
  refine Task.wp_alone_bind (Task.wp_mono traced ?_)
  rintro outcome shown log - ⟨rfl, traceId, rfl⟩
  have idle : (MessageRun.make worker command options traceId).Idle := ⟨rfl, rfl, rfl⟩
  have fresh : ({} : ReplyLog).Fresh := ⟨rfl, rfl, rfl, rfl⟩
  refine Task.wp_focus (Task.wp_withFinally (Task.wp_alone_tryCatch (Task.wp_mono
    (processMessage_log resolved owed idle fresh) ?_)) trivial) trivial
  intro outcome run log _ processed
  cases outcome with
  | ok result =>
      refine Task.wp_mono (cleanupTask_log command) ?_
      rintro outcome after later - ⟨rfl, rfl, rfl⟩
      exact obliges_of_processed processed
  | error error =>
      refine Task.wp_mono (recover_log resolved owed rfl error) ?_
      rintro outcome after later - ⟨-, terminal, reported⟩
      refine Task.wp_mono (cleanupTask_log command) ?_
      rintro cleaned last final - ⟨rfl, rfl, rfl⟩
      exact obliges_of_recovered processed terminal reported

/-! ### Runs -/

def echoWorker : GatewayWorker where
  workerId := "worker"
  usesWorkspace := false
  processCommand _ _ := .returns (.json (.string "done"))

def midHeader : MessageHeader :=
  { messageId := "msg-mid"
    sessionId := "session"
    traceId := "trace"
    sourceAgentType := "top"
    targetAgentType := "mid"
    parentMessageId := "msg-top" }

def midCommand : GatewayCommand :=
  .askAgent { header := midHeader, content := .string "work", nonEmpty := Eq.refl true }

def calmAnswer (log : ReplyLog) (op : Op) : op.Reply × ReplyLog :=
  ((redisAnswer .empty op).1, log.note midHeader op (redisAnswer .empty op).1)

theorem calmAnswer_weather (op : Op) : replyWeather midHeader op (redisAnswer .empty op).1 := by
  cases op with
  | redis command =>
      cases command with
      | xadd stream value =>
          cases stream with
          | ctrlStream agentType =>
              cases value with
              | command sent =>
                  cases sent with
                  | resume reply => exact ⟨_, rfl⟩
                  | _ => trivial
              | _ => trivial
          | _ => trivial
      | hget key field =>
          cases key with
          | sessionRegistry sessionId => trivial
          | _ => trivial
      | _ => trivial
  | cleanupTask sessionId taskId => rfl
  | uuid =>
      exact show messageIdOf "00000000-0000-4000-8000-000000000000" ≠ "msg-mid" from by decide
  | _ => trivial

/-- How the message of `midCommand` ends in that Redis. -/
def calmEnd : (Except JsError AgentTaskResult × Option AgentContext) × ReplyLog :=
  Prog.run calmAnswer ((echoWorker.handleMessage midCommand {}).start none) {}

theorem reply_obligation_calm :
    resolveReplyCommand midCommand none = some midCommand ∧
      Obliges calmEnd.1.1 calmEnd.1.2 calmEnd.2 ∧
      (calmEnd.2.replies = 1 ∧ calmEnd.2.groupExpired = false ∧ calmEnd.2.failsLate = false) :=
  ⟨by decide,
    Prog.wp_run (reply_obligation_iff echoWorker midCommand midCommand {} none (by decide))
      fun _ op => ⟨calmAnswer_weather op, rfl⟩,
    by decide +kernel⟩

theorem sibling_filled : AgentState.completed ≠ "" ∨ hasContent (.string "") = true := by decide

def lateSibling : GatewayCommand :=
  .resume
    { header :=
        { messageId := "msg-mid"
          sessionId := "session"
          traceId := "trace"
          sourceAgentType := "leaf"
          targetAgentType := "mid"
          parentMessageId := "msg-leaf"
          taskGroupId := "tg-1" }
      status := AgentState.completed
      nonEmpty := sibling_filled }

def midRecord : ExecutionRecord :=
  { executionId := "exec-mid"
    messageId := "msg-mid"
    parentMessageId := "msg-top"
    sessionId := "session"
    sourceAgentType := "top"
    targetAgentType := "mid"
    status := AgentState.waitingAgent }

def expiredEnd : (Except JsError AgentTaskResult × Option AgentContext) × RedisStore :=
  Prog.run redisAnswer ((echoWorker.handleMessage lateSibling
    { existingData := some midRecord }).start none) .empty

def topReplies (store : RedisStore) : Nat := (store.stream (.ctrlStream "top")).entries.length

/-- The storage of the history is out of reach once the caller is answered, and back again after a
second answer. -/
def flakyAnswer (store : RedisStore) : (op : Op) → op.Reply × RedisStore
  | .saveMessage _ _ _ _ =>
      (if topReplies store = 1 then .error ⟨"Error", "history storage unavailable"⟩ else .ok (),
        store)
  | op => redisAnswer store op

def flakyEnd : (Except JsError AgentTaskResult × Option AgentContext) × RedisStore :=
  Prog.run flakyAnswer ((echoWorker.handleMessage midCommand {}).start none) .empty

def endsWith (status : String) (outcome : Except JsError AgentTaskResult) : Bool :=
  match outcome with
  | .ok result => result.status = status
  | .error _ => false

/-- A finished message without a reply, and one with two. -/
theorem reply_missing_and_doubled :
    ((resolveReplyCommand lateSibling (some midRecord)).isSome = true ∧
      endsWith AgentState.failed expiredEnd.1.1 = true ∧ topReplies expiredEnd.2 = 0) ∧
    (endsWith AgentState.failed flakyEnd.1.1 = true ∧ topReplies flakyEnd.2 = 2) := by
  decide +kernel

end ByFramework
