import ByFramework.RecordKeeping

/-! What a worker's turn leaves of an execution's record, and what it replies with. -/

namespace ByFramework

open Async

/-! ### One message -/

section Message

variable {ids : ExecutionIds} {worker : GatewayWorker} {groupName : String} {streamName : Key}
  {msgId : Nat} {command inbound : GatewayCommand} {options : HandleMessageOptions}
  {read metadata : JsonObject} {fits : Progress → ResumeCommand → Prop} {run : MessageRun}
  {store : RedisStore} {progress : Progress}

abbrev WorkerFits (ids : ExecutionIds) (worker : GatewayWorker) (groupName : String)
    (streamName : Key) (msgId : Nat) (read metadata : JsonObject) :
    Progress → ResumeCommand → Prop :=
  (Turn.toWorker worker groupName streamName msgId).Fits ids read metadata

theorem maySend_result {good : ExecutionRecord → Prop} {reply : GatewayCommand}
    {value : HandlerValue} {result : AgentTaskResult} (carried : reply.header.metadata = metadata)
    (reads : inbound.header.metadata = read)
    (returned : (Turn.toWorker worker groupName streamName msgId).Returned ids inbound value)
    (normal : normalizeProcessResult value = .ok result) (status : String) :
    MaySend (sparingRecord ids good
      (WorkerFits ids worker groupName streamName msgId read metadata .returned))
      worker.workerId reply.header status result.toReturn := by
  intro messageId callback made _
  simp only [ResumeCommand.make] at made
  split at made
  · cases made
    refine fits_returned reads returned normal rfl rfl ?_
    rw [← carried]
    rfl
  · cases made

theorem maySend_failure {good : ExecutionRecord → Prop} {fitting : ResumeCommand → Prop}
    {reply : GatewayCommand} {status : String} {replyData : JsonValue}
    (fails : ∀ callback : ResumeCommand, callback.header.metadata = reply.header.metadata →
      fitting callback) :
    MaySend (sparingRecord ids good fitting) worker.workerId reply.header status
      { replyData := replyData } := by
  intro messageId callback made _
  simp only [ResumeCommand.make] at made
  split at made
  · cases made
    exact fails _ rfl
  · cases made

variable (groupName streamName msgId) in
theorem runHandler_round
    (handling : Handling ids (restoreInboundMetadata command options.existingData) run.context)
    (stored : ids.Stored (Keeping metadata) store) :
    (worker.runHandler command options).wp (roundSetting ids besideRecords fits)
      (fun outcome last later =>
        Handling ids (restoreInboundMetadata command options.existingData) last.context ∧
        ids.Stored (Keeping metadata) later.1 ∧ match outcome with
          | .ok value => later.2 = .returned ∧
              (Turn.toWorker worker groupName streamName msgId).Returned ids
                (restoreInboundMetadata command options.existingData) value
          | .error _ => later.2 = .handling)
      run (store, .handling) := by
  refine Task.wp_alone_bind (Task.wp_alone_get (wp_process fun _ => ?_))
  have handled : (MessageRun.onContext (worker.processCommand
      (restoreInboundMetadata command options.existingData) run.context).run).wp
      (roundSetting ids besideRecords fits) (fun outcome last later =>
        Handling ids (restoreInboundMetadata command options.existingData) last.context ∧
        (ids.Stored (Keeping metadata) later.1 ∧ later.2 = .handling) ∧
        ∀ value, outcome = .ok value →
          (Turn.toWorker worker groupName streamName msgId).Returned ids
            (restoreInboundMetadata command options.existingData) value)
      run (store, .handling) :=
    Task.wp_focus (wp_handler (.toWorker worker groupName streamName msgId) handling stored) trivial
  refine Task.wp_alone_bind (Task.wp_mono (Task.wp_alone_attempt handled) ?_)
  rintro _ run ⟨middle, _⟩ - ⟨outcome, rfl, handling, ⟨stored, rfl⟩, returned⟩
  refine wp_process fun _ => ?_
  cases outcome with
  | ok value => exact Task.wp_alone_pure ⟨handling, stored, rfl, returned value rfl⟩
  | error error => exact Task.wp_alone_throw ⟨handling, stored, rfl⟩

theorem processMessage_round
    (reads : (restoreInboundMetadata command options.existingData).header.metadata = read)
    (carried : ∀ reply, GatewayWorker.replyCommand command options = some reply →
      reply.header.metadata = metadata)
    (handling : Handling ids (restoreInboundMetadata command options.existingData) run.context)
    (stored : ids.Stored (Keeping metadata) store) :
    (worker.processMessage command options).wp (roundSetting ids besideRecords
        (WorkerFits ids worker groupName streamName msgId read metadata))
      (fun _ last later =>
        Handling ids (restoreInboundMetadata command options.existingData) last.context ∧
        ids.Stored (Keeping metadata) later.1 ∧
          (later.2 = .handling ∨ later.2 = .returned)) run (store, .handling) := by
  have prepares : (worker.prepare command options).Uses (sparingRecord ids (Keeping metadata)
      (WorkerFits ids worker groupName streamName msgId read metadata .handling)) fun run =>
        Handling ids (restoreInboundMetadata command options.existingData) run.context :=
    GatewayWorker.prepare_worker (sparing_keeps _) worker command options
  refine Task.wp_alone_bind (Task.wp_mono (wp_sparing prepares handling stored) ?_)
  rintro outcome run ⟨middle, _⟩ - ⟨handling, stored, rfl⟩
  cases outcome with
  | error error => exact ⟨handling, stored, .inl rfl⟩
  | ok early =>
      cases early with
      | some result => exact Task.wp_alone_pure ⟨handling, stored, .inl rfl⟩
      | none =>
          refine Task.wp_alone_bind (Task.wp_mono
            (runHandler_round groupName streamName msgId handling stored) ?_)
          rintro outcome run ⟨middle, _⟩ - ⟨handling, stored, ran⟩
          cases outcome with
          | error error => exact ⟨handling, stored, .inl ran⟩
          | ok value =>
              obtain ⟨rfl, returned⟩ := ran
              refine Task.wp_mono (wp_sparing (GatewayWorker.afterHandler_worker (sparing_keeps _)
                worker command options ?_) handling stored) ?_
              · intro normalized normal reply replies status
                exact maySend_result (carried reply replies) reads returned normal status
              · rintro outcome run ⟨later, _⟩ - ⟨handling, stored, rfl⟩
                exact ⟨handling, stored, .inr rfl⟩

theorem recover_round {error : JsError}
    (carried : ∀ reply, GatewayWorker.replyCommand command options = some reply →
      reply.header.metadata = metadata)
    (handling : Handling ids (restoreInboundMetadata command options.existingData) run.context)
    (stored : ids.Stored (Keeping metadata) store)
    (begun : progress = .handling ∨ progress = .returned) :
    (worker.recover command options error).wp (roundSetting ids besideRecords
        (WorkerFits ids worker groupName streamName msgId read metadata))
      (fun _ last later =>
        Handling ids (restoreInboundMetadata command options.existingData) last.context ∧
        ids.Stored (Keeping metadata) later.1) run (store, progress) := by
  refine wp_process fun _ => (Task.wp_mono (wp_sparing (GatewayWorker.reportError_worker (sparing_keeps _)
    worker command options ?_ error) handling stored) ?_)
  · intro reply replies status _ replyData
    refine maySend_failure fun callback same => fits_failing begun ?_
    rw [same, carried reply replies]
  · rintro outcome run later - ⟨handling, stored, -⟩
    exact ⟨handling, stored⟩

theorem handleMessage_round {memory : Option AgentContext}
    (reads : (restoreInboundMetadata command options.existingData).header.metadata = read)
    (carried : ∀ reply, GatewayWorker.replyCommand command options = some reply →
      reply.header.metadata = metadata)
    (stored : ids.Stored (Keeping metadata) store) :
    (worker.handleMessage command options).wp (roundSetting ids besideRecords
        (WorkerFits ids worker groupName streamName msgId read metadata))
      (fun _ _ later => ids.Stored (Keeping metadata) later.1) memory (store, .handling) := by
  have traces : (if command.header.traceId = "" then plainId else pure command.header.traceId :
      Proc (Option AgentContext) String).Uses (sparingRecord ids (Keeping metadata)
        (WorkerFits ids worker groupName streamName msgId read metadata .handling))
        fun _ => True := by
    split
    · exact Task.uses_bind (Task.uses_await ⟨rfl, rfl⟩) fun _ => Task.uses_pure _
    · exact Task.uses_pure _
  refine Task.wp_alone_bind (Task.wp_mono (wp_sparing traces trivial stored) ?_)
  rintro outcome memory ⟨middle, _⟩ - ⟨-, stored, rfl⟩
  cases outcome with
  | error error => exact stored
  | ok traceId =>
      have handling : Handling ids (restoreInboundMetadata command options.existingData)
          (MessageRun.make worker command options traceId).context :=
        ⟨fun _ listed => (nomatch listed), rfl⟩
      have cleans : ∀ {run : MessageRun} {state : RedisStore × Progress}
          {post : Except JsError PUnit → MessageRun → RedisStore × Progress → Prop},
          Handling ids (restoreInboundMetadata command options.existingData) run.context →
          ids.Stored (Keeping metadata) state.1 →
          (∀ done run later, ids.Stored (Keeping metadata) later.1 → post done run later) →
          (GatewayWorker.cleanupTask command).wp (roundSetting ids besideRecords
            (WorkerFits ids worker groupName streamName msgId read metadata)) post run state := by
        intro run state post handling stored holds
        exact Task.wp_mono (wp_sparing (GatewayWorker.cleanupTask_worker (sparing_keeps _) command)
          handling stored) fun done run later _ kept => holds done run later kept.2.1
      refine Task.wp_focus (Task.wp_withFinally (Task.wp_alone_tryCatch (Task.wp_mono
        (processMessage_round reads carried handling stored) ?_)) trivial) trivial
      rintro outcome run ⟨middle, progress⟩ - ⟨handling, stored, begun⟩
      cases outcome with
      | ok result =>
          refine cleans handling stored fun done run later kept => ?_
          cases done with
          | ok _ => exact kept
          | error _ => exact kept
      | error error =>
          refine Task.wp_mono (recover_round carried handling stored begun) ?_
          rintro outcome run later - ⟨handling, stored⟩
          refine cleans handling stored fun done run later kept => ?_
          cases done with
          | ok _ => exact kept
          | error _ => exact kept

end Message

/-! ### One turn -/

def AwaitsTurn (command : GatewayCommand) (metadata : JsonObject) (record : ExecutionRecord) :
    Prop :=
  command.isResume = true ∨ record.Suspended → record.metadata = metadata

theorem running_keeps {worker : GatewayWorker} {streamName : Key} {msgId : Nat}
    {command : GatewayCommand} {metadata : JsonObject} {record running : ExecutionRecord}
    (fresh : command.isResume = false → command.header.metadata = metadata)
    (awaits : AwaitsTurn command metadata record) (same : running.metadata = record.metadata) :
    (worker.claimRecord streamName msgId command running).metadata = metadata := by
  unfold GatewayWorker.claimRecord
  cases resumes : command.isResume with
  | true => exact same.trans (awaits (.inl resumes))
  | false => exact fresh resumes

section Turn

variable {ids : ExecutionIds} {worker : GatewayWorker} {groupName : String} {streamName : Key}
  {msgId : Nat} {command : GatewayCommand} {record : ExecutionRecord} {read metadata : JsonObject}
  {fits : Progress → ResumeCommand → Prop} {store : RedisStore} {state : RedisStore × Progress}
  {progress : Progress} {memory : Unit}

theorem markExecutionFinished_sparing {good : ExecutionRecord → Prop} {fitting : ResumeCommand → Prop}
    {executionId sessionId status : String}
    (finishes : ∀ record later : ExecutionRecord, good record → later.metadata = record.metadata →
      later.status = status → good later) :
    (markExecutionFinished executionId sessionId status : Proc Unit PUnit).Uses
      (sparingRecord ids good fitting) fun _ => True := by
  refine changeExecution_sparing (fun now record holds => ?_) fun now record => ?_
  · refine finishes record _ holds ?_ ?_
    · dsimp only
      split <;> rfl
    · dsimp only
      split <;> rfl
  · dsimp only
    split <;> rfl

theorem xack_sparing {good : ExecutionRecord → Prop} {fitting : ResumeCommand → Prop} :
    (xack streamName groupName msgId : Proc Unit PUnit).Uses (sparingRecord ids good fitting)
      fun _ => True :=
  uses_redis_bind ⟨rfl, rfl⟩ fun _ _ => Task.uses_pure _

theorem recordRunning_round (session : ids.sessionId ≠ "")
    (addressed : ids.Addressed command.header)
    (fresh : command.isResume = false → command.header.metadata = metadata)
    (stored : ids.Stored (AwaitsTurn command metadata) store) :
    (worker.recordRunning streamName msgId command ids.executionId (some record) :
      Proc Unit PUnit).wp (roundSetting ids besideRecords fits) (fun outcome _ later =>
        (ids.Stored (Keeping metadata) later.1 ∨
        (∃ error, outcome = .error error) ∧ ids.Stored (AwaitsTurn command metadata) later.1) ∧
          later.2 = progress)
      memory (store, progress) := by
  have quiet : (worker.recordRunning streamName msgId command ids.executionId (some record) :
      Proc Unit PUnit).Uses background fun _ => True := changeExecution_background _ _ _
  have claims : (worker.recordRunning streamName msgId command ids.executionId (some record) :
      Proc Unit PUnit).wp (flaky besideRecords) (fun outcome _ later =>
        ids.Stored (Keeping metadata) later ∨
        (∃ error, outcome = .error error) ∧ ids.Stored (AwaitsTurn command metadata) later)
      memory store := ?_
  · exact wp_background_round quiet claims
  unfold GatewayWorker.recordRunning updateExecutionStatus
  rw [addressed.sessionId]
  refine Task.wp_mono (wp_changeExecution (Keeping metadata) session ?_ ?_ stored) ?_
  · intro now current awaits
    dsimp only
    split
    · exact running_keeps fresh awaits rfl
    · exact running_keeps fresh awaits rfl
  · intro now current
    dsimp only
    split <;> rfl
  · rintro outcome _ later - (kept | ⟨failed, rfl⟩)
    · exact .inl kept
    · exact .inr ⟨failed, stored⟩

variable
  (reads : (restoreInboundMetadata command (some record)).header.metadata = read)
  (carried : ∀ reply, resolveReplyCommand command (some record) = some reply →
    reply.header.metadata = metadata)

include reads carried in
theorem recorded_round (controller : Nat) (stored : ids.Stored (Keeping metadata) store) :
    (do
      let _ ← dateNow
      ofProcess worker.workerId (.reach (.messageStarts streamName msgId))
      let result ← Task.focus (fun _ => none) (fun memory _ => memory) (worker.handleMessage command
        { cancelSignal := some controller
          cancelReason := (Option.map ExecutionRecord.cancelReason (some record)).getD ""
          existingData := some record
          executionId := ids.executionId })
      ofProcess worker.workerId (.reach (.messageHandled streamName msgId))
      let _ ← dateNow
      markExecutionFinished ids.executionId command.header.sessionId result.status
      xack streamName groupName msgId : Proc Unit PUnit).wp (roundSetting ids besideRecords
        (WorkerFits ids worker groupName streamName msgId read metadata))
      (fun _ _ later => ids.Stored (Keeping metadata) later.1) memory (store, .handling) := by
  refine Task.wp_alone_bind (Task.wp_mono (wp_spares (Task.uses_await ⟨rfl, rfl⟩) stored) ?_)
  rintro outcome memory ⟨middle, _⟩ - ⟨stored, rfl⟩
  cases outcome with
  | error error => exact stored
  | ok now =>
      refine wp_process fun _ => Task.wp_alone_bind (Task.wp_focus (Task.wp_mono
        (handleMessage_round reads carried stored) ?_) trivial)
      rintro outcome _ ⟨middle, progress⟩ - stored
      cases outcome with
      | error error => exact stored
      | ok result =>
          refine Task.wp_mono (wp_spares (Task.uses_bind (Task.uses_await ⟨rfl, rfl⟩) fun _ => ?_)
            stored) fun _ _ _ _ kept => kept.1
          refine Task.uses_bind (Task.uses_await ⟨rfl, rfl⟩) fun _ => ?_
          refine Task.uses_bind (markExecutionFinished_sparing fun _ _ kept same _ =>
            same.trans kept) fun _ => xack_sparing

include reads carried in
theorem execute_round (session : ids.sessionId ≠ "") (addressed : ids.Addressed command.header)
    (fresh : command.isResume = false → command.header.metadata = metadata) (controller : Nat)
    (stored : ids.Stored (AwaitsTurn command metadata) store) :
    (worker.execute groupName streamName msgId command ids.executionId (some record) controller :
      Proc Unit PUnit).wp (roundSetting ids besideRecords
        (WorkerFits ids worker groupName streamName msgId read metadata))
      (fun _ _ later => ids.Stored (AwaitsTurn command metadata) later.1) memory
      (store, .handling) := by
  have settles : ∀ later, ids.Stored (Keeping metadata) later →
      ids.Stored (AwaitsTurn command metadata) later := by
    rintro later ⟨found, there, named, kept⟩
    exact ⟨found, there, named, fun _ => kept⟩
  refine wp_process fun _ => Task.wp_alone_bind (Task.wp_mono
    (recordRunning_round session addressed fresh stored) ?_)
  rintro outcome memory ⟨middle, _⟩ - ⟨claimed, rfl⟩
  cases outcome with
  | error error =>
      rcases claimed with kept | ⟨-, kept⟩
      · exact settles _ kept
      · exact kept
  | ok _ =>
      rcases claimed with kept | ⟨⟨error, failed⟩, -⟩
      · exact Task.wp_mono (recorded_round reads carried controller kept)
          fun _ _ later _ => settles later.1
      · cases failed

include reads carried in
theorem claimMessage_round (mapped : ids.Mapped store) (addressed : ids.Addressed command.header)
    (named : record.executionId = ids.executionId)
    (fresh : command.isResume = false → command.header.metadata = metadata)
    (stored : ids.Stored (AwaitsTurn command metadata) store) :
    (worker.claimMessage groupName streamName msgId command (some record) : Proc Unit PUnit).wp
      (roundSetting ids besideRecords
        (WorkerFits ids worker groupName streamName msgId read metadata))
      (fun _ _ later => ids.Stored (AwaitsTurn command metadata) later.1) memory
      (store, .handling) := by
  have known : (GatewayWorker.executionIdOf command (some record) : Proc Unit String) =
      pure ids.executionId := by
    have kept : orElseText record.executionId command.header.traceId = ids.executionId := by
      rw [named]
      exact if_neg mapped.executionId
    change (if orElseText record.executionId command.header.traceId = "" then _ else _) = _
    rw [kept, if_neg mapped.executionId]
    exact congrArg pure kept
  unfold GatewayWorker.claimMessage
  rw [known, pure_bind]
  refine wp_process fun controller => ?_
  have aborts : (Task.when (Option.any ExecutionRecord.cancelRequested (some record) = true)
      (ofProcess worker.workerId (.abort controller (orElseText
        ((Option.map ExecutionRecord.cancelReason (some record)).getD "") "task cancelled"))) :
      Proc Unit PUnit).Uses (sparingRecord ids (AwaitsTurn command metadata)
        (WorkerFits ids worker groupName streamName msgId read metadata .handling)) :=
    Task.uses_when fun _ => Task.uses_await ⟨rfl, rfl⟩
  refine Task.wp_alone_bind (Task.wp_mono (wp_spares aborts stored) ?_)
  rintro outcome memory ⟨middle, _⟩ - ⟨stored, rfl⟩
  cases outcome with
  | error error => exact stored
  | ok _ =>
      dsimp only
      split
      · refine Task.wp_mono (wp_spares (Task.uses_bind (markExecutionFinished_sparing ?_)
          fun _ => xack_sparing) stored) fun _ _ _ _ kept => kept.1
        rintro current later awaits same status (resumes | suspended)
        · exact same.trans (awaits (.inl resumes))
        · rw [ExecutionRecord.Suspended, status] at suspended
          exact absurd suspended (by decide)
      · exact execute_round reads carried mapped.sessionId addressed fresh controller stored

end Turn

section Delivery

variable {ids : ExecutionIds} {worker : GatewayWorker} {groupName : String} {streamName : Key}
  {msgId : Nat} {data : GatewayCommand} {record : ExecutionRecord} {metadata : JsonObject}
  {store : RedisStore}

/-- The message of a turn, and what is recorded of its execution before. -/
structure Arrives (ids : ExecutionIds) (data : GatewayCommand) (metadata : JsonObject)
    (store : RedisStore) : Prop where
  mapped : ids.Mapped store
  addressed : ids.Addressed data.header
  fresh : data.isResume = false → data.header.metadata = metadata
  stored : ids.Stored (AwaitsTurn data metadata) store

theorem AwaitsTurn.same {command : GatewayCommand} (resumes : command.isResume = data.isResume)
    (awaits : AwaitsTurn data metadata record) : AwaitsTurn command metadata record := by
  intro held
  rw [resumes] at held
  exact awaits held

theorem same_reads {command : GatewayCommand} (header : command.header = data.header)
    (resumes : command.isResume = data.isResume) (awaits : AwaitsTurn data metadata record) :
    (restoreInboundMetadata command (some record)).header.metadata = readOf data metadata := by
  rw [restoreInboundMetadata_reads fun resumed => awaits.same resumes (.inl resumed), readOf,
    readOf, resumes, header]

theorem resolveReplyCommand_carries (awaits : AwaitsTurn data metadata record)
    (fresh : data.isResume = false → data.header.metadata = metadata) {reply : GatewayCommand}
    (resolved : resolveReplyCommand data (some record) = some reply) :
    reply.header.metadata = metadata := by
  cases data with
  | resume resume =>
      simp only [resolveReplyCommand] at resolved
      split at resolved
      · cases resolved
      · cases resolved
        exact awaits (.inl rfl)
  | _ =>
      simp only [resolveReplyCommand] at resolved
      split at resolved
      · cases resolved
      · cases resolved
        exact fresh rfl

theorem Arrives.of_hash {later : RedisStore} (arrives : Arrives ids data metadata store)
    (same : later.hash (.sessionRegistry ids.sessionId) =
      store.hash (.sessionRegistry ids.sessionId)) : Arrives ids data metadata later :=
  ⟨arrives.mapped.of_hash same, arrives.addressed, arrives.fresh, stored_of_hash arrives.stored same⟩

theorem consumeMessage_round (arrives : Arrives ids data metadata store) :
    (worker.consumeMessage groupName streamName msgId data : Proc Unit PUnit).wp
      (roundSetting ids besideRecords
        (WorkerFits ids worker groupName streamName msgId (readOf data metadata) metadata))
      (fun _ _ later => ids.Stored (AwaitsTurn data metadata) later.1) () (store, .handling) := by
  refine Task.wp_alone_bind (Task.wp_mono
    (wp_besideRegistry_noted getSessionHistory_beside) ?_)
  rintro outcome memory ⟨middle, _⟩ - ⟨same, rfl⟩
  replace arrives := arrives.of_hash same
  cases outcome with
  | error error => exact arrives.stored
  | ok history =>
      obtain ⟨header, resumes⟩ := GatewayWorker.withHistory_header data history
      obtain ⟨record, found, named, awaits⟩ := id arrives.stored
      dsimp only
      generalize GatewayWorker.withHistory data history = command at header resumes ⊢
      rw [header, arrives.addressed.sessionId, arrives.addressed.messageId]
      refine Task.wp_alone_bind (Task.wp_mono (wp_background_round
        (getExecutionByMessageId_background _ _) (wp_lookup arrives.mapped found)) ?_)
      rintro outcome memory ⟨last, _⟩ - ⟨⟨rfl, returned⟩, rfl⟩
      cases outcome with
      | error error => exact arrives.stored
      | ok existing =>
          obtain rfl : existing = some record := by
            rcases returned with found | ⟨-, error, failed⟩
            · exact Except.ok.inj found
            · cases failed
          have stored : ids.Stored (AwaitsTurn command metadata) last :=
            ⟨record, found, named, awaits.same resumes⟩
          have fresh : command.isResume = false → command.header.metadata = metadata := by
            rw [resumes, header]
            exact arrives.fresh
          have addressed : ids.Addressed command.header := by
            rw [header]
            exact arrives.addressed
          refine Task.wp_mono (?_ : Task.wp _ _ (fun _ _ later =>
            ids.Stored (AwaitsTurn command metadata) later.1) _ _) ?_
          · split
            · exact Task.wp_mono (wp_spares xack_sparing stored) fun _ _ _ _ kept => kept.1
            · exact claimMessage_round (same_reads header resumes awaits)
                (fun reply resolved => resolveReplyCommand_carries (awaits.same resumes) fresh
                  resolved) arrives.mapped addressed named fresh stored
          · rintro _ _ later - ⟨left, there, named, awaits⟩
            exact ⟨left, there, named, awaits.same resumes.symm⟩

theorem processAndAck_round (arrives : Arrives ids data metadata store)
    (sent : (∃ ask, data = .askAgent ask) ∨ ∃ resume, data = .resume resume) :
    (worker.processAndAck groupName streamName msgId data : Proc Unit PUnit).wp
      (roundSetting ids besideRecords
        (WorkerFits ids worker groupName streamName msgId (readOf data metadata) metadata))
      (fun _ _ later => ids.Stored (AwaitsTurn data metadata) later.1) () (store, .handling) := by
  have untracks {progress : Progress} (messageId : String) :
      (worker.untrackMessage messageId : Proc Unit PUnit).Uses
        (sparingRecord ids (AwaitsTurn data metadata) (WorkerFits ids worker groupName streamName
          msgId (readOf data metadata) metadata progress)) := by
    refine Task.uses_bind (Task.uses_await ⟨rfl, rfl⟩) fun known => ?_
    cases truthyText known with
    | none => exact Task.uses_pure _
    | some executionId => exact Task.uses_await ⟨rfl, rfl⟩
  refine Task.wp_withFinally (Task.wp_mono (?_ : Task.wp _ _
    (fun _ _ later => ids.Stored (AwaitsTurn data metadata) later.1) ()
      (store, Progress.handling)) ?_) trivial
  · rcases sent with ⟨ask, rfl⟩ | ⟨resume, rfl⟩
    · exact consumeMessage_round arrives
    · refine Task.wp_alone_bind (Task.wp_mono
        (wp_besideRegistry_noted (admitReply_beside worker resume)) ?_)
      rintro outcome memory ⟨middle, _⟩ - ⟨same, rfl⟩
      replace arrives := arrives.of_hash same
      cases outcome with
      | error error => exact arrives.stored
      | ok admitted =>
          refine Task.wp_alone_when (fun _ => consumeMessage_round arrives) fun _ => ?_
          exact arrives.stored
  · intro outcome memory middle _ stored
    refine Task.wp_mono (wp_spares (untracks _) stored) ?_
    rintro done _ later _ ⟨kept, -⟩
    cases done with
    | ok _ => exact kept
    | error _ => exact kept

end Delivery

end ByFramework
