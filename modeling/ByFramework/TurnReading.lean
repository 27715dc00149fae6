import ByFramework.ProcessorTurns
import ByFramework.WorkerTurns

/-! A turn that finds the record ends as if its handler could read no other metadata. -/

namespace ByFramework

open Async

/-- The handlers do the same with the command, in every context that knows `known`. -/
def Agrees (handler other : GatewayCommand → AgentContext → Handler)
    (inbound known : GatewayCommand) : Prop :=
  ∀ context, context.currentCommand = known → other inbound context = handler inbound context

theorem keeps_current (known : GatewayCommand) :
    MessageKeeps (.only fun _ => True) fun context => context.currentCommand = known where
  permits _ _ _ := trivial
  files _ _ _ _ := ⟨trivial, trivial⟩
  notes _ _ held notes := notes.currentCommand.trans held
  suspends _ _ held _ := held
  queues _ _ _ held _ _ := held
  handles _ _ _ _ := trivial
  takes _ held := held
  standIns _ _ _ _ _ := trivial

/-! ### A worker -/

section Message

variable {worker : GatewayWorker} {other : GatewayCommand → AgentContext → Handler}
  {command : GatewayCommand} {options : HandleMessageOptions}
  (agrees : Agrees worker.processCommand other (restoreInboundMetadata command options.existingData)
    (restoreInboundMetadata command options.existingData))
include agrees

theorem runHandler_agrees {run : MessageRun}
    (current : run.context.currentCommand = restoreInboundMetadata command options.existingData) :
    (({ worker with processCommand := other } : GatewayWorker).runHandler command options).start
      run = (worker.runHandler command options).start run := by
  unfold GatewayWorker.runHandler
  rw [Task.start_bind, Task.start_bind]
  simp only [Task.start_get, Prog.done_bind]
  rw [agrees _ current]

theorem processMessage_agrees {run : MessageRun}
    (current : run.context.currentCommand = restoreInboundMetadata command options.existingData) :
    (({ worker with processCommand := other } : GatewayWorker).processMessage command
      options).start run = (worker.processMessage command options).start run := by
  unfold GatewayWorker.processMessage
  rw [Task.start_bind, Task.start_bind]
  refine Prog.bind_congr_of_uses (GatewayWorker.prepare_worker (keeps_current _) worker command
    options run current) ?_
  rintro ⟨outcome, last⟩ kept
  cases outcome with
  | error error => rfl
  | ok early =>
      cases early with
      | some result => rfl
      | none =>
          dsimp only
          rw [Task.start_bind, Task.start_bind, runHandler_agrees agrees kept]
          rfl

omit agrees in
@[simp] theorem GatewayWorker.recover_processCommand :
    ({ worker with processCommand := other } : GatewayWorker).recover command options =
      worker.recover command options := rfl

omit agrees in
@[simp] theorem MessageRun.make_processCommand (traceId : String) :
    MessageRun.make { worker with processCommand := other } command options traceId =
      MessageRun.make worker command options traceId := rfl

theorem handleMessage_agrees :
    ({ worker with processCommand := other } : GatewayWorker).handleMessage command options =
      worker.handleMessage command options := by
  have same (traceId : String) :
      (({ worker with processCommand := other } : GatewayWorker).processMessage command
        options).start (MessageRun.make worker command options traceId) =
      (worker.processMessage command options).start
        (MessageRun.make worker command options traceId) := processMessage_agrees agrees rfl
  have focused (traceId : String) (memory : Option AgentContext) :
      (Task.focus (fun _ => MessageRun.make worker command options traceId)
        (fun _ run => some run.context) (Task.withFinally (tryCatch
          (({ worker with processCommand := other } : GatewayWorker).processMessage command options)
          (worker.recover command options)) (GatewayWorker.cleanupTask command))).start memory =
      (Task.focus (fun _ => MessageRun.make worker command options traceId)
        (fun _ run => some run.context) (Task.withFinally (tryCatch
          (worker.processMessage command options)
          (worker.recover command options)) (GatewayWorker.cleanupTask command))).start memory := by
    unfold Task.withFinally
    simp only [Task.start_focus, Task.start_bind, Task.start_tryCatch, same]
  unfold GatewayWorker.handleMessage
  simp only [GatewayWorker.recover_processCommand, MessageRun.make_processCommand]
  congr 1
  funext traceId
  exact funext (focused traceId)

end Message

section Turn

variable {ids : ExecutionIds} {worker : GatewayWorker} {groupName : String} {streamName : Key}
  {msgId : Nat} {data : GatewayCommand} {record : ExecutionRecord} {metadata : JsonObject}
  {other : GatewayCommand → AgentContext → Handler} {store : RedisStore}
  {mayFail : RedisCommand → Prop} {outcome : Except JsError PUnit × Unit} {last : RedisStore}

theorem claimMessage_agrees {command : GatewayCommand}
    (agrees : Agrees worker.processCommand other (restoreInboundMetadata command (some record))
      (restoreInboundMetadata command (some record))) :
    (({ worker with processCommand := other } : GatewayWorker).claimMessage groupName streamName
      msgId command (some record) : Proc Unit PUnit) =
      worker.claimMessage groupName streamName msgId command (some record) := by
  have handled (controller : Nat) (cancelReason executionId : String) :
      ({ worker with processCommand := other } : GatewayWorker).handleMessage command
        { cancelSignal := some controller
          cancelReason := cancelReason
          existingData := some record
          executionId := executionId } =
      worker.handleMessage command
        { cancelSignal := some controller
          cancelReason := cancelReason
          existingData := some record
          executionId := executionId } :=
    handleMessage_agrees agrees
  unfold GatewayWorker.claimMessage GatewayWorker.execute
  simp only [handled]
  rfl

theorem consumeMessage_reads (arrives : Arrives ids data metadata store)
    (agrees : ∀ command : GatewayCommand, command.header.metadata = readOf data metadata →
      Agrees worker.processCommand other command command) :
    ((({ worker with processCommand := other } : GatewayWorker).consumeMessage groupName streamName
        msgId data : Proc Unit PUnit).start ()).Ends (roundServe ids mayFail) store outcome last ↔
      ((worker.consumeMessage groupName streamName msgId data : Proc Unit PUnit).start ()).Ends
        (roundServe ids mayFail) store outcome last := by
  refine Task.ends_bind_iff (wp_besideRegistry getSessionHistory_beside) ?_
  rintro history ⟨⟩ middle same
  replace arrives := arrives.of_hash same
  obtain ⟨header, resumes⟩ := GatewayWorker.withHistory_header data history
  obtain ⟨record, found, named, awaits⟩ := arrives.stored
  dsimp only
  generalize GatewayWorker.withHistory data history = command at header resumes ⊢
  rw [header, arrives.addressed.sessionId, arrives.addressed.messageId]
  refine Task.ends_bind_iff (wp_lookup_round arrives.mapped found) ?_
  rintro existing ⟨⟩ later ⟨-, returned | ⟨-, error, failed⟩⟩
  · obtain rfl : existing = some record := Except.ok.inj returned
    split
    · exact Iff.rfl
    · rw [claimMessage_agrees (agrees _ (same_reads header resumes awaits))]
  · cases failed

theorem processAndAck_reads {resume : ResumeCommand}
    (arrives : Arrives ids (.resume resume) metadata store)
    (agrees : ∀ command : GatewayCommand,
      command.header.metadata = readOf (.resume resume) metadata →
      Agrees worker.processCommand other command command) :
    ((({ worker with processCommand := other } : GatewayWorker).processAndAck groupName streamName
        msgId (.resume resume) : Proc Unit PUnit).start ()).Ends (roundServe ids mayFail) store
        outcome last ↔
      ((worker.processAndAck groupName streamName msgId (.resume resume) :
        Proc Unit PUnit).start ()).Ends (roundServe ids mayFail) store outcome last := by
  refine Task.ends_withFinally_iff fun outcome middle => ?_
  refine Task.ends_bind_iff (wp_besideRegistry (admitReply_beside worker resume)) ?_
  rintro admitted ⟨⟩ later same
  unfold Task.when
  split
  · exact consumeMessage_reads (arrives.of_hash same) agrees
  · exact Iff.rfl

end Turn

/-! ### A processor -/

section Processor

variable {σ : Type} {ids : ExecutionIds} {workerId : String}
  {handler other : GatewayCommand → AgentContext → Handler} {data inbound : GatewayCommand}
  {replyHeader : Option MessageHeader} {metadata : JsonObject} {store : RedisStore}

theorem runMessage_agrees (agrees : Agrees handler other inbound noCurrentCommand)
    {context : AgentContext} (current : context.currentCommand = noCurrentCommand) :
    (GatewayProcessor.runMessage workerId data replyHeader other inbound).start context =
      (GatewayProcessor.runMessage workerId data replyHeader handler inbound).start context := by
  have resumes : (Task.when data.isResume (AgentContext.emitState AgentState.resumed)).Uses
      (.only fun _ => True) fun context => context.currentCommand = noCurrentCommand :=
    Task.uses_when fun _ => emitState_handler (keeps_current _).toHandlerKeeps _
  unfold GatewayProcessor.runMessage
  rw [Task.start_bind, Task.start_bind]
  refine Prog.bind_congr_of_uses (resumes context current) ?_
  rintro ⟨outcome, last⟩ kept
  cases outcome with
  | error error => rfl
  | ok _ =>
      dsimp only
      rw [Task.start_bind, Task.start_bind]
      simp only [Task.start_get, Prog.done_bind]
      rw [agrees _ kept]

theorem handled_agrees (agrees : Agrees handler other inbound noCurrentCommand) (traceId : String) :
    (Task.focus (fun _ => GatewayProcessor.newContext data traceId) (fun memory _ => memory)
      (tryCatch (GatewayProcessor.runMessage workerId data replyHeader other inbound)
        (GatewayProcessor.fail workerId data replyHeader)) : Proc σ HandlerValue) =
      Task.focus (fun _ => GatewayProcessor.newContext data traceId) (fun memory _ => memory)
        (tryCatch (GatewayProcessor.runMessage workerId data replyHeader handler inbound)
          (GatewayProcessor.fail workerId data replyHeader)) := by
  have focused (memory : σ) :
      (Task.focus (fun _ => GatewayProcessor.newContext data traceId) (fun memory _ => memory)
        (tryCatch (GatewayProcessor.runMessage workerId data replyHeader other inbound)
          (GatewayProcessor.fail workerId data replyHeader)) : Proc σ HandlerValue).start memory =
      (Task.focus (fun _ => GatewayProcessor.newContext data traceId) (fun memory _ => memory)
        (tryCatch (GatewayProcessor.runMessage workerId data replyHeader handler inbound)
          (GatewayProcessor.fail workerId data replyHeader))).start memory := by
    rw [Task.start_focus, Task.start_focus, Task.start_tryCatch, Task.start_tryCatch,
      runMessage_agrees agrees rfl]
  exact funext focused

variable (data) in
theorem process_reads (mapped : ids.Mapped store) (addressed : ids.Addressed data.header)
    (stored : ids.Stored (Keeping metadata) store)
    (agrees : ∀ command : GatewayCommand, command.header.metadata = readOf data metadata →
      Agrees handler other command noCurrentCommand)
    {outcome : Except JsError (Option HandlerValue) × σ} {memory : σ} {last : RedisStore} :
    ((GatewayProcessor.process workerId other data : Proc σ _).start memory).Ends
        (roundServe ids besideRegistries) store outcome last ↔
      ((GatewayProcessor.process workerId handler data : Proc σ _).start memory).Ends
        (roundServe ids besideRegistries) store outcome last := by
  unfold GatewayProcessor.process
  refine Task.ends_bind_iff (wp_besideRegistry (traceId_beside data)) ?_
  rintro traceId memory middle same
  replace stored := stored_of_hash stored same
  replace mapped := mapped.of_hash same
  refine Task.ends_bind_iff (wp_besideRegistry (passGate_beside workerId data)) ?_
  rintro admitted memory later same
  replace stored := stored_of_hash stored same
  replace mapped := mapped.of_hash same
  cases admitted with
  | false => simp only [Bool.not_false, if_true]
  | true =>
      simp only [Bool.not_true, Bool.false_eq_true, if_false]
      refine Task.ends_bind_iff (loadExecutionSnapshot_finds mapped addressed stored) ?_
      rintro _ memory _ ⟨snapshot, ⟨rfl⟩, loaded, rfl⟩
      rw [handled_agrees (agrees _ loaded.reads)]

end Processor

end ByFramework
