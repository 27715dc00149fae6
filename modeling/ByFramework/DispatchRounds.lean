import ByFramework.Async.Noting
import ByFramework.ProcessorCore
import ByFramework.ResumeReattach
import ByFramework.RunnerCore

/-!
The rounds of one execution that suspends and is resumed, and what becomes in them of the metadata
that it was dispatched with.
-/

namespace ByFramework

open Async

structure ExecutionIds where
  sessionId : String
  executionId : String
  messageId : String
deriving DecidableEq

namespace ExecutionIds

def recordIn (ids : ExecutionIds) (store : RedisStore) : Option Value :=
  store.field (.sessionRegistry ids.sessionId) (execField ids.executionId)

/-- The record of the execution is there, and satisfies `good`. -/
def Stored (ids : ExecutionIds) (good : ExecutionRecord → Prop) (store : RedisStore) : Prop :=
  ∃ record, ids.recordIn store = some (.execution record) ∧
    record.executionId = ids.executionId ∧ good record

structure Mapped (ids : ExecutionIds) (store : RedisStore) : Prop where
  sessionId : ids.sessionId ≠ ""
  executionId : ids.executionId ≠ ""
  mapped : store.field (.sessionRegistry ids.sessionId) (msgMapField ids.messageId) =
    some (.text ids.executionId)

structure Addressed (ids : ExecutionIds) (header : MessageHeader) : Prop where
  sessionId : header.sessionId = ids.sessionId
  messageId : header.messageId = ids.messageId

end ExecutionIds

def ExecutionRecord.Suspended (record : ExecutionRecord) : Prop :=
  record.status ∈ [AgentState.waitingAgent, AgentState.waitingUser]

abbrev Keeping (metadata : JsonObject) (record : ExecutionRecord) : Prop :=
  record.metadata = metadata

/-! ### Turns -/

def besideRecords : RedisCommand → Prop
  | .hset (.sessionRegistry _) _ => False
  | _ => True

def besideRegistries : RedisCommand → Prop
  | .hset (.sessionRegistry _) _ | .hget (.sessionRegistry _) _ => False
  | _ => True

def roundServe (ids : ExecutionIds) (mayFail : RedisCommand → Prop) (store : RedisStore) :
    (op : Op) → op.Reply → RedisStore → Prop
  | .uuid, id, after => after = store ∧ freshExecutionId id ≠ ids.executionId ∧
      messageIdOf id ≠ ids.messageId
  | op, reply, after => flakyServe mayFail store op reply after

/-- How far the handling of a message has come. -/
inductive Progress where
  | handling
  | returned
  | failed
  | unreported
deriving DecidableEq

def Progress.note (progress : Progress) : Op → Progress
  | .process _ (.reach (.handlerEnds _ _ true)) => .returned
  | .process _ (.reach (.messageFails _ _)) =>
      if progress = .returned then .unreported else .failed
  | _ => progress

/-- The delivery of a message: to a worker of a runner, or to a processor in another loop. -/
inductive Turn where
  | toWorker (worker : GatewayWorker) (groupName : String) (streamName : Key) (msgId : Nat)
  | toProcessor (workerId : String) (handler : GatewayCommand → AgentContext → Handler)

namespace Turn

def program : Turn → GatewayCommand → Proc Unit PUnit
  | .toWorker worker groupName streamName msgId, command =>
      worker.processAndAck groupName streamName msgId command
  | .toProcessor workerId handler, command => do
      let _ ← GatewayProcessor.process workerId handler command

def handler : Turn → GatewayCommand → AgentContext → Handler
  | .toWorker worker _ _ _ => worker.processCommand
  | .toProcessor _ handler => handler

def knows : Turn → GatewayCommand → GatewayCommand
  | .toWorker _ _ _ _, command => command
  | .toProcessor _ _, _ => noCurrentCommand

/-- A worker gives up when it cannot read the record; a processor would go on without it. -/
def mayFail : Turn → RedisCommand → Prop
  | .toWorker _ _ _ _ => besideRecords
  | .toProcessor _ _ => besideRegistries

/-- What a turn has to find in the record of a fresh dispatch. A worker claims it, and records the
metadata of the message; a processor does not. -/
def Finds : Turn → JsonObject → ExecutionRecord → Prop
  | .toWorker _ _ _ _, _, record => ¬ record.Suspended
  | .toProcessor _ _, metadata, record => record.metadata = metadata

def Shows : Turn → ExecutionRecord → Prop
  | .toWorker _ _ _ _, record => record.Suspended
  | .toProcessor _ _, _ => True

abbrev serve (turn : Turn) (ids : ExecutionIds) :=
  roundServe ids turn.mayFail

def Ends (turn : Turn) (ids : ExecutionIds) (command : GatewayCommand)
    (before after : RedisStore) : Prop :=
  ∃ outcome, Prog.Ends (turn.serve ids) ((turn.program command).start ()) before outcome after

end Turn

/-- The rounds of an execution that was dispatched with `metadata`: it was picked up and suspended,
then it was resumed by messages with the metadata `waking`. In between, others may do anything but
rewrite what its record says of its dispatch. -/
inductive Rounds (ids : ExecutionIds) : JsonObject → List JsonObject → RedisStore → Prop where
  | dispatched {turn : Turn} {ask : AskAgentCommand} {before after : RedisStore}
      (mapped : ids.Mapped before)
      (pending : ids.Stored (turn.Finds ask.header.metadata) before)
      (addressed : ids.Addressed ask.header)
      (ended : turn.Ends ids (.askAgent ask) before after)
      (suspended : ids.Stored turn.Shows after) :
      Rounds ids ask.header.metadata [] after
  | meanwhile {metadata : JsonObject} {waking : List JsonObject} {before after : RedisStore}
      (earlier : Rounds ids metadata waking before)
      (untouched : ∀ left, ids.Stored (Keeping left) before → ids.Stored (Keeping left) after) :
      Rounds ids metadata waking after
  | resumed {metadata : JsonObject} {waking : List JsonObject} {turn : Turn}
      {resume : ResumeCommand} {before after : RedisStore}
      (earlier : Rounds ids metadata waking before)
      (mapped : ids.Mapped before)
      (addressed : ids.Addressed resume.header)
      (ended : turn.Ends ids (.resume resume) before after) :
      Rounds ids metadata (waking ++ [resume.header.metadata]) after

/-- The turn with a handler that is another one where it does not read this metadata. -/
def Turn.reading (turn : Turn) (metadata : JsonObject)
    (stranger : GatewayCommand → AgentContext → Handler) : Turn :=
  let handler := fun command context =>
    if command.header.metadata = metadata ∧ context.currentCommand = turn.knows command then
      turn.handler command context
    else stranger command context
  match turn with
  | .toWorker worker groupName streamName msgId =>
      .toWorker { worker with processCommand := handler } groupName streamName msgId
  | .toProcessor workerId _ => .toProcessor workerId handler

/-- A reply sent once the handler returned carries what it returned over the metadata of the
dispatch; one that says that the message failed before carries that metadata alone. -/
inductive CarriesOver (ids : ExecutionIds) (turn : Turn) (read metadata : JsonObject)
    (reply : ResumeCommand) : Progress → Prop where
  | returned {command : GatewayCommand} {context last : AgentContext} {before after : RedisStore}
      {value : HandlerValue} {result : AgentTaskResult}
      (reads : command.header.metadata = read)
      (current : context.currentCommand = turn.knows command)
      (ran : Prog.Ends (turn.serve ids) ((turn.handler command context).run.start context)
        before (.ok value, last) after)
      (normal : normalizeProcessResult value = .ok result)
      (content : reply.content = result.content) (replyData : reply.replyData = result.replyData)
      (carries : reply.header.metadata = spread metadata result.metadata) :
      CarriesOver ids turn read metadata reply .returned
  | failed (carries : reply.header.metadata = metadata) :
      CarriesOver ids turn read metadata reply .failed

namespace Turn

def Reads (turn : Turn) (ids : ExecutionIds) (command : GatewayCommand) (metadata : JsonObject)
    (before : RedisStore) : Prop :=
  ∀ stranger outcome after,
    Prog.Ends (turn.serve ids) ((turn.program command).start ()) before outcome after ↔
      Prog.Ends (turn.serve ids) (((turn.reading metadata stranger).program command).start ())
        before outcome after

def Fits (turn : Turn) (ids : ExecutionIds) (read metadata : JsonObject) (progress : Progress)
    (reply : ResumeCommand) : Prop :=
  progress ≠ .unreported → CarriesOver ids turn read metadata reply progress

/-- Whatever the turn comes to send as a reply of the execution fits how far it has come. -/
def Replies (turn : Turn) (ids : ExecutionIds) (command : GatewayCommand)
    (read metadata : JsonObject) (before : RedisStore) : Prop :=
  ∀ stream reply last progress, Prog.Reaches (noting Progress.note (turn.serve ids))
      ((turn.program command).start ()) (before, .handling)
      (.redis (.xadd stream (.command (.resume reply)))) (last, progress) →
    reply.header.parentMessageId = ids.messageId → turn.Fits ids read metadata progress reply

end Turn

/-- What the next turn finds of the metadata the execution was dispatched with. -/
structure Survives (ids : ExecutionIds) (metadata : JsonObject) (store : RedisStore) : Prop where
  stored : ids.Stored (Keeping metadata) store
  read : ∀ (turn : Turn) (resume : ResumeCommand), ids.Mapped store → ids.Addressed resume.header →
    turn.Reads ids (.resume resume) (mergeResumeMetadata metadata resume.header.metadata) store
  replied : ∀ (turn : Turn) (resume : ResumeCommand), ids.Mapped store →
    ids.Addressed resume.header → turn.Replies ids (.resume resume)
      (mergeResumeMetadata metadata resume.header.metadata) metadata store

end ByFramework
