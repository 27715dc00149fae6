import ByFramework.ClientCore
import ByFramework.TurnReading

/-!
The metadata of a dispatch over the rounds of suspension and resumption.

`src/resume_metadata.ts` has two opposite rules over one stored field: what wakes an execution is
laid over it for the handler that reads, and left out of the reply.
-/

namespace ByFramework

open Async

/-- What a turn finds recorded of its execution, and leaves recorded. -/
def Turn.Leaves : Turn → GatewayCommand → JsonObject → ExecutionRecord → Prop
  | .toWorker _ _ _ _, data, metadata => AwaitsTurn data metadata
  | .toProcessor _ _, _, metadata => Keeping metadata

section Round

variable {ids : ExecutionIds} {turn : Turn} {data : GatewayCommand} {ask : AskAgentCommand}
  {resume : ResumeCommand} {metadata : JsonObject} {store : RedisStore}

variable (turn) in
theorem turn_round (mapped : ids.Mapped store) (addressed : ids.Addressed data.header)
    (fresh : data.isResume = false → data.header.metadata = metadata)
    (stored : ids.Stored (turn.Leaves data metadata) store)
    (sent : (∃ ask, data = .askAgent ask) ∨ ∃ resume, data = .resume resume) :
    (turn.program data).wp (roundSetting ids turn.mayFail
        (turn.Fits ids (readOf data metadata) metadata))
      (fun _ _ later => ids.Stored (turn.Leaves data metadata) later.1) () (store, .handling) := by
  cases turn with
  | toWorker worker groupName streamName msgId =>
      exact processAndAck_round ⟨mapped, addressed, fresh, stored⟩ sent
  | toProcessor workerId handler =>
      refine Task.wp_alone_bind (Task.wp_mono (process_round mapped addressed fresh stored) ?_)
      rintro outcome _ later - kept
      cases outcome with
      | error error => exact kept
      | ok value => exact Task.wp_alone_pure kept

theorem leaves_dispatched (pending : ids.Stored (turn.Finds ask.header.metadata) store) :
    ids.Stored (turn.Leaves (.askAgent ask) ask.header.metadata) store := by
  obtain ⟨record, found, named, finds⟩ := pending
  refine ⟨record, found, named, ?_⟩
  cases turn with
  | toWorker worker groupName streamName msgId =>
      rintro (resumes | suspended)
      · cases resumes
      · exact absurd suspended finds
  | toProcessor workerId handler => exact finds

theorem leaves_resumed (turn : Turn) (stored : ids.Stored (Keeping metadata) store) :
    ids.Stored (turn.Leaves (.resume resume) metadata) store := by
  obtain ⟨record, found, named, kept⟩ := stored
  refine ⟨record, found, named, ?_⟩
  cases turn with
  | toWorker worker groupName streamName msgId => exact fun _ => kept
  | toProcessor workerId handler => exact kept

theorem keeping_of_leaves (left : ids.Stored (turn.Leaves data metadata) store)
    (shows : data.isResume = true ∨ ids.Stored turn.Shows store) :
    ids.Stored (Keeping metadata) store := by
  obtain ⟨record, found, named, kept⟩ := left
  refine ⟨record, found, named, ?_⟩
  cases turn with
  | toWorker worker groupName streamName msgId =>
      rcases shows with resumes | ⟨other, there, -, waits⟩
      · exact kept (.inl resumes)
      · rw [found] at there
        cases there
        exact kept (.inr waits)
  | toProcessor workerId handler => exact kept

variable (data) in
theorem turn_ends {after : RedisStore} (mapped : ids.Mapped store)
    (addressed : ids.Addressed data.header)
    (fresh : data.isResume = false → data.header.metadata = metadata)
    (stored : ids.Stored (turn.Leaves data metadata) store)
    (sent : (∃ ask, data = .askAgent ask) ∨ ∃ resume, data = .resume resume)
    (ended : turn.Ends ids data store after) : ids.Stored (turn.Leaves data metadata) after := by
  obtain ⟨outcome, ends⟩ := ended
  obtain ⟨last, noted⟩ := Prog.ends_noting_iff.mp ends
  exact Task.wp_ends noted (turn_round turn mapped addressed fresh stored sent)

variable (data) in
theorem turn_replies (mapped : ids.Mapped store) (addressed : ids.Addressed data.header)
    (fresh : data.isResume = false → data.header.metadata = metadata)
    (stored : ids.Stored (turn.Leaves data metadata) store)
    (sent : (∃ ask, data = .askAgent ask) ∨ ∃ resume, data = .resume resume) :
    turn.Replies ids data (readOf data metadata) metadata store := by
  intro stream reply last progress reaches answers
  exact Prog.wp_reaches reaches (turn_round turn mapped addressed fresh stored sent) stream reply
    rfl answers

theorem turn_reads (mapped : ids.Mapped store) (addressed : ids.Addressed resume.header)
    (stored : ids.Stored (Keeping metadata) store) :
    turn.Reads ids (.resume resume) (mergeResumeMetadata metadata resume.header.metadata)
      store := by
  intro stranger outcome last
  refine Iff.symm ?_
  cases turn with
  | toWorker worker groupName streamName msgId =>
      have arrives : Arrives ids (.resume resume) metadata store :=
        ⟨mapped, addressed, fun fresh => (by cases fresh),
          leaves_resumed (.toWorker worker groupName streamName msgId) stored⟩
      exact processAndAck_reads arrives fun command reads context current =>
        if_pos ⟨reads, current⟩
  | toProcessor workerId handler =>
      refine Prog.ends_bind_left fun outcome middle => ?_
      exact process_reads (.resume resume) mapped addressed stored fun command reads context current =>
        if_pos ⟨reads, current⟩

end Round

theorem Rounds.stored {ids : ExecutionIds} {metadata : JsonObject} {waking : List JsonObject}
    {store : RedisStore} (rounds : Rounds ids metadata waking store) :
    ids.Stored (Keeping metadata) store := by
  induction rounds with
  | dispatched mapped pending addressed ended suspended =>
      exact keeping_of_leaves (turn_ends (.askAgent _) mapped addressed (fun _ => rfl)
        (leaves_dispatched pending) (.inl ⟨_, rfl⟩) ended) (.inr suspended)
  | meanwhile earlier untouched ih => exact untouched _ ih
  | resumed earlier mapped addressed ended ih =>
      exact keeping_of_leaves (turn_ends (.resume _) mapped addressed (fun fresh => (by cases fresh))
        (leaves_resumed _ ih) (.inr ⟨_, rfl⟩) ended) (.inl rfl)

/-- What an execution was dispatched with is what its replies carry, already in the turn that picks
it up; it stays in the record over every round; and every resumed handler reads it under the
metadata of the message that woke it. -/
theorem dispatch_metadata_survives (ids : ExecutionIds) :
    (∀ (turn : Turn) (ask : AskAgentCommand) (store : RedisStore), ids.Mapped store →
      ids.Stored (turn.Finds ask.header.metadata) store → ids.Addressed ask.header →
        turn.Replies ids (.askAgent ask) ask.header.metadata ask.header.metadata store) ∧
    ∀ (metadata : JsonObject) (waking : List JsonObject) (store : RedisStore),
      Rounds ids metadata waking store → Survives ids metadata store := by
  constructor
  · intro turn ask store mapped pending addressed
    exact turn_replies (.askAgent ask) mapped addressed (fun _ => rfl) (leaves_dispatched pending)
      (.inl ⟨ask, rfl⟩)
  · intro metadata waking store rounds
    constructor
    · exact rounds.stored
    · intro turn resume mapped addressed
      exact turn_reads mapped addressed rounds.stored
    · intro turn resume mapped addressed
      exact turn_replies (.resume resume) mapped addressed (fun fresh => (by cases fresh))
        (leaves_resumed _ rounds.stored) (.inr ⟨resume, rfl⟩)

/-! ### A question and its answer -/

def askingWorker : GatewayWorker :=
  { workerId := "worker"
    usesWorkspace := false
    processCommand := fun command _ =>
      if command.isResume then .returns (.json (.string "booked"))
      else .askUser "which day?" none fun _ => .returns (.json (.string AgentState.queued)) }

def askingTurn (msgId : Nat) : Turn :=
  .toWorker askingWorker "group" (.ctrlStream "callee") msgId

def askingIds : ExecutionIds := ⟨"session", "exec-1", "msg-1"⟩

def bookingAsk : AskAgentCommand :=
  { header :=
      { messageId := "msg-1"
        sessionId := "session"
        traceId := "trace"
        sourceAgentType := "caller"
        targetAgentType := "callee"
        metadata := [("tenant", .string "acme")] }
    content := .string "book"
    nonEmpty := by decide }

def bookingAnswer : ResumeCommand :=
  { header :=
      { messageId := "msg-1"
        sessionId := "session"
        traceId := "trace"
        targetAgentType := "callee"
        metadata := [("channel", .string "phone")] }
    content := .string "monday"
    nonEmpty := by decide }

def askedRecord : ExecutionRecord :=
  { executionId := "exec-1"
    messageId := "msg-1"
    sessionId := "session"
    traceId := "trace"
    sourceAgentType := "caller"
    targetAgentType := "callee"
    status := AgentState.queued }

def askedStore : RedisStore :=
  ([.hset (.sessionRegistry "session") [(msgMapField "msg-1", .text "exec-1")],
    .hset (.sessionRegistry "session") [(execField "exec-1", .execution askedRecord)]] :
      List RedisCommand).foldl (fun store command => (store.exec command).2) .empty

def afterQuestion : RedisStore :=
  (Prog.run redisAnswer (((askingTurn 0).program (.askAgent bookingAsk)).start ()) askedStore).2

def afterAnswer : RedisStore :=
  (Prog.run redisAnswer (((askingTurn 1).program (.resume bookingAnswer)).start ())
    afterQuestion).2

theorem redisAnswer_round (store : RedisStore) (op : Op) :
    roundServe askingIds besideRecords store op (redisAnswer store op).1 (redisAnswer store op).2 := by
  cases op with
  | redis command => exact .inl rfl
  | uuid =>
      refine ⟨rfl, ?_, ?_⟩
      · exact show freshExecutionId "00000000-0000-4000-8000-000000000000" ≠ "exec-1" by
          decide +kernel
      · exact show messageIdOf "00000000-0000-4000-8000-000000000000" ≠ "msg-1" by decide +kernel
  | _ => rfl

def Value.idAndStatus : Value → Option (String × String)
  | .execution record => some (record.executionId, record.status)
  | _ => none

theorem booking_waits : askingIds.Stored (askingTurn 0).Shows afterQuestion := by
  have left : (askingIds.recordIn afterQuestion).bind Value.idAndStatus =
      some ("exec-1", AgentState.waitingUser) := by decide +kernel
  obtain ⟨value, found, shows⟩ := Option.bind_eq_some_iff.mp left
  cases value with
  | execution record =>
      obtain ⟨named, waits⟩ := Prod.mk.inj (Option.some.inj shows)
      refine ⟨record, found, named, ?_⟩
      change record.status ∈ _
      rw [waits]
      decide
  | _ => cases shows

theorem bookingRounds :
    Rounds askingIds [("tenant", .string "acme")] [[("channel", .string "phone")]] afterAnswer := by
  have unclaimed : ¬ askedRecord.Suspended :=
    show ¬ AgentState.queued ∈ [AgentState.waitingAgent, AgentState.waitingUser] by decide
  have pending : askingIds.Stored ((askingTurn 0).Finds bookingAsk.header.metadata) askedStore :=
    ⟨askedRecord, by decide +kernel, rfl, unclaimed⟩
  have asked : Rounds askingIds bookingAsk.header.metadata [] afterQuestion :=
    .dispatched ⟨by decide, by decide, by decide +kernel⟩ pending ⟨rfl, rfl⟩
      ⟨_, Prog.ends_run redisAnswer_round _ _⟩ booking_waits
  have mapped : askingIds.Mapped afterQuestion := ⟨by decide, by decide, by decide +kernel⟩
  have answered : askingIds.Addressed bookingAnswer.header := ⟨rfl, rfl⟩
  have ended : (askingTurn 1).Ends askingIds (.resume bookingAnswer) afterQuestion afterAnswer :=
    ⟨_, Prog.ends_run redisAnswer_round _ _⟩
  exact .resumed asked mapped answered ended

theorem dispatch_metadata_survives_answer :
    Survives askingIds [("tenant", .string "acme")] afterAnswer :=
  (dispatch_metadata_survives askingIds).2 _ _ _ bookingRounds

/-! ### A client and a processor -/

def bookingParams : SendMessageParams :=
  { targetAgentType := "callee"
    sessionId := "session"
    content := .string "book"
    messageId := "msg-1"
    traceId := "trace"
    metadata := [("tenant", .string "acme")]
    requireOnlineWorker := false }

def sentStore : RedisStore :=
  (Prog.run redisAnswer ((sendMessage [] bookingParams : Proc Unit _).start ()) .empty).2

def published (store : RedisStore) (agentType : String) : List GatewayCommand :=
  (store.stream (.ctrlStream agentType)).entries.filterMap fun
    | .command command => some command
    | _ => none

def echoAnswer (command : GatewayCommand) (_ : AgentContext) : Handler :=
  if command.isResume then .returns (.json (.object command.header.metadata))
  else .askUser "which day?" none fun _ => .returns (.json (.string AgentState.queued))

def processed (command : GatewayCommand) (store : RedisStore) :
    Except JsError (Option HandlerValue) × RedisStore :=
  let run := Prog.run redisAnswer
    ((GatewayProcessor.process "processor" echoAnswer command : Proc Unit _).start ()) store
  (run.1.1, run.2)

def recordedMetadata (store : RedisStore) : Option JsonObject :=
  match store.field (.sessionRegistry "session") (execField "exec-00000000") with
  | some (.execution record) => some record.metadata
  | _ => none

def readBack : Except JsError (Option HandlerValue) → Option JsonValue
  | .ok (some (.json value)) => some value
  | _ => none

/-- A client records no metadata, and a processor does not either: after the question there is none
to restore. -/
theorem processor_loses_metadata :
    (published sentStore "callee").map (fun command =>
      let asked := (processed command sentStore).2
      (command.header.metadata, recordedMetadata asked,
        readBack (processed (.resume bookingAnswer) asked).1)) =
      [([("tenant", .string "acme")], some [], some (.object [("channel", .string "phone")]))] ∧
    mergeResumeMetadata [("tenant", .string "acme")] bookingAnswer.header.metadata ≠
      [("channel", .string "phone")] := by
  constructor
  · decide +kernel
  · decide +kernel

end ByFramework
