import ByFramework.RecordKeeping

/-! What a processor's turn leaves of an execution's record, and what it replies with. -/

namespace ByFramework

open Async

section Message

variable {ids : ExecutionIds} {workerId : String}
  {handler : GatewayCommand → AgentContext → Handler} {command inbound : GatewayCommand}
  {replyHeader : Option MessageHeader} {read metadata : JsonObject}
  {fitting : ResumeCommand → Prop} {good : ExecutionRecord → Prop} {context : AgentContext}
  {store : RedisStore} {progress : Progress}

abbrev ProcessorFits (ids : ExecutionIds) (workerId : String)
    (handler : GatewayCommand → AgentContext → Handler) (read metadata : JsonObject) :
    Progress → ResumeCommand → Prop :=
  (Turn.toProcessor workerId handler).Fits ids read metadata

abbrev Unknowing (ids : ExecutionIds) : AgentContext → Prop := Handling ids noCurrentCommand

theorem enqueueCallback_sparing {header : MessageHeader} {status : String}
    {agentReturn : AgentReturn} {inv : AgentContext → Prop}
    (fits : ∀ callback : ResumeCommand,
      callback.header.metadata = spread header.metadata agentReturn.metadata →
      callback.content = agentReturn.content → callback.replyData = agentReturn.replyData →
      fitting callback) :
    (GatewayProcessor.enqueueCallback workerId header status agentReturn).Uses
      (sparingRecord ids good fitting) inv := by
  unfold GatewayProcessor.enqueueCallback
  refine Task.uses_bind ?_ fun messageId => Task.uses_bind ?_ fun traceId => ?_
  · split
    · exact Task.uses_bind (Task.uses_await ⟨rfl, rfl⟩) fun _ => Task.uses_pure _
    · exact Task.uses_pure _
  · split
    · exact Task.uses_bind (Task.uses_await ⟨rfl, rfl⟩) fun _ => Task.uses_pure _
    · exact Task.uses_pure _
  · refine uses_orThrow_bind fun callback made =>
      uses_redis_bind (fun _ => ?_) fun _ _ => Task.uses_pure _
    simp only [ResumeCommand.make] at made
    split at made
    · cases made
      exact fits _ rfl rfl rfl
    · cases made

theorem afterHandler_sparing {value : HandlerValue}
    (fits : ∀ (header : MessageHeader) (callback : ResumeCommand) (result : AgentTaskResult),
      replyHeader = some header → normalizeProcessResult value = .ok result →
      callback.header.metadata = spread header.metadata result.metadata →
      callback.content = result.content → callback.replyData = result.replyData →
      fitting callback) :
    (do
      flushPendingGroupReplies (← AgentContext.takePendingGroupReplies)
      let taskResult ← orThrow (normalizeProcessResult value)
      GatewayProcessor.reply workerId replyHeader taskResult
      match finalMessage taskResult with
      | none => pure ⟨⟩
      | some text => AgentContext.emitChunk text EventType.finalAnswer
      GatewayProcessor.endStream replyHeader
      pure value : Proc AgentContext HandlerValue).Uses (sparingRecord ids good fitting)
      (Unknowing ids) := by
  have keeps : MessageKeeps (sparingRecord ids good fitting) (Unknowing ids) := sparing_keeps _
  have shows (state : String) :
      (AgentContext.emitState state).Uses (sparingRecord ids good fitting) (Unknowing ids) :=
    emitState_handler keeps.toHandlerKeeps state
  have emits (content eventType : String) : (AgentContext.emitChunk content eventType).Uses
      (sparingRecord ids good fitting) (Unknowing ids) :=
    emitChunk_handler keeps.toHandlerKeeps content eventType
  intro context held
  have flushes : (flushPendingGroupReplies context.pendingGroupReplies :
      Proc AgentContext PUnit).Uses (sparingRecord ids good fitting) (Unknowing ids) :=
    Task.uses_forEach _ fun reply listed => Task.uses_failSoft
      (uses_redis_bind (keeps.standIns _ _ held reply listed) fun _ _ => Task.uses_pure _)
  refine Task.uses_bind flushes (fun _ => ?_) _ (keeps.takes _ held)
  refine uses_orThrow_bind fun result normal => Task.uses_bind ?_ fun _ => ?_
  · refine Task.uses_bind Task.uses_get fun context => ?_
    cases replyHeader with
    | none => exact shows _
    | some header =>
        exact Task.uses_when fun _ => Task.uses_bind
          (enqueueCallback_sparing fun callback => fits header callback result rfl normal)
          fun _ => shows _
  · have ends : (GatewayProcessor.endStream replyHeader >>= fun _ => pure value :
        Proc AgentContext HandlerValue).Uses (sparingRecord ids good fitting) (Unknowing ids) :=
      Task.uses_bind (Task.uses_bind Task.uses_get fun context => Task.uses_when fun _ =>
        emits _ _) fun _ => Task.uses_pure _
    dsimp only
    cases finalMessage result with
    | none => exact ends
    | some text => exact Task.uses_bind (emits _ _) fun _ => ends

theorem runMessage_round (reads : inbound.header.metadata = read)
    (carried : ∀ header, replyHeader = some header → header.metadata = metadata)
    (handling : Unknowing ids context) (stored : ids.Stored (Keeping metadata) store) :
    (GatewayProcessor.runMessage workerId command replyHeader handler inbound).wp
      (roundSetting ids besideRegistries (ProcessorFits ids workerId handler read metadata))
      (fun _ last later => Unknowing ids last ∧ ids.Stored (Keeping metadata) later.1 ∧
        (later.2 = .handling ∨ later.2 = .returned)) context (store, .handling) := by
  have resumes : (Task.when command.isResume (AgentContext.emitState AgentState.resumed)).Uses
      (sparingRecord ids (Keeping metadata)
        (ProcessorFits ids workerId handler read metadata .handling)) (Unknowing ids) :=
    Task.uses_when fun _ => emitState_handler (sparing_keeps _).toHandlerKeeps _
  refine Task.wp_alone_bind (Task.wp_mono (wp_sparing resumes handling stored) ?_)
  rintro outcome context ⟨middle, _⟩ - ⟨handling, stored, rfl⟩
  cases outcome with
  | error error => exact ⟨handling, stored, .inl rfl⟩
  | ok _ =>
      refine Task.wp_alone_bind (Task.wp_alone_get (Task.wp_alone_bind (Task.wp_mono
        (wp_handler (.toProcessor workerId handler) handling stored) ?_)))
      rintro outcome last ⟨later, _⟩ - ⟨handling, ⟨stored, rfl⟩, returned⟩
      cases outcome with
      | error error => exact ⟨handling, stored, .inl rfl⟩
      | ok value =>
          refine wp_process fun _ => Task.wp_mono (wp_sparing (afterHandler_sparing ?_)
            handling stored) ?_
          · intro header callback result replies normal carries content replyData
            refine fits_returned reads (returned value rfl) normal content replyData ?_
            rw [carries, carried header replies]
          · rintro outcome last ⟨later, _⟩ - ⟨handling, stored, rfl⟩
            exact ⟨handling, stored, .inr rfl⟩

theorem fail_round {error : JsError}
    (carried : ∀ header, replyHeader = some header → header.metadata = metadata)
    (handling : Unknowing ids context) (stored : ids.Stored (Keeping metadata) store)
    (begun : progress = .handling ∨ progress = .returned) :
    (GatewayProcessor.fail workerId command replyHeader error).wp
      (roundSetting ids besideRegistries (ProcessorFits ids workerId handler read metadata))
      (fun _ _ later => ids.Stored (Keeping metadata) later.1) context (store, progress) := by
  have ends (fitting : ResumeCommand → Prop) :
      (AgentContext.emitState (AgentState.failed ++ ": " ++ error.toText) >>= fun _ => throw error :
        Proc AgentContext HandlerValue).Uses (sparingRecord ids (Keeping metadata) fitting)
        (Unknowing ids) :=
    Task.uses_bind (emitState_handler (sparing_keeps _).toHandlerKeeps _) fun _ => Task.uses_throw _
  refine wp_process fun _ => Task.wp_mono (wp_sparing ?_ handling stored)
    fun _ _ _ _ kept => kept.2.1
  dsimp only
  cases replyHeader with
  | none => exact ends _
  | some header =>
      refine Task.uses_bind (enqueueCallback_sparing fun callback carries _ _ =>
        fits_failing begun ?_) fun _ => ends _
      rw [carries, ← carried header rfl]
      rfl

end Message

section Turn

variable {σ : Type} {ids : ExecutionIds} {workerId : String}
  {handler : GatewayCommand → AgentContext → Handler} {data : GatewayCommand}
  {snapshot : Option ExecutionRecord} {metadata : JsonObject} {store : RedisStore}

theorem passGate_beside {inv : σ → Prop} (workerId : String) (command : GatewayCommand) :
    (GatewayProcessor.passGate workerId command : Proc σ Bool).Uses besideRegistry inv := by
  -- A processor acknowledges nothing, so any entry will do.
  have gate : ∀ op : Op, op.ofMessage workerId (.ctrlStream workerId) 0 = true →
      op.writesRegistry = false → op.sendsReply = false → op.marksPhase = false →
      besideRegistry.allowed op :=
    fun op _ spares silent unmarked => ⟨spares, silent, unmarked⟩
  unfold GatewayProcessor.passGate
  split
  · refine Task.uses_bind (consumeWaitEntry_message gate _) fun decision => ?_
    exact Task.uses_bind (Task.uses_when fun _ => emitOrphanedReply_message gate _ _ _)
      fun _ => Task.uses_pure _
  · exact Task.uses_pure _

theorem traceId_beside {inv : σ → Prop} (command : GatewayCommand) :
    (if command.header.traceId = "" then plainId else pure command.header.traceId :
      Proc σ String).Uses besideRegistry inv := by
  split
  · exact Task.uses_bind (Task.uses_await ⟨rfl, rfl, rfl⟩) fun _ => Task.uses_pure _
  · exact Task.uses_pure _

def Loaded (data : GatewayCommand) (metadata : JsonObject) (snapshot : Option ExecutionRecord) :
    Prop :=
  if data.isResume then ∃ record, snapshot = some record ∧ record.metadata = metadata
  else snapshot = none

theorem Loaded.reads (loaded : Loaded data metadata snapshot) :
    (restoreInboundMetadata data snapshot).header.metadata = readOf data metadata := by
  unfold Loaded at loaded
  split at loaded
  · obtain ⟨record, rfl, kept⟩ := loaded
    exact restoreInboundMetadata_reads fun _ => kept
  · rename_i fresh
    subst loaded
    rw [readOf, if_neg fresh]
    cases data with
    | resume resume => exact absurd rfl fresh
    | _ => rfl

theorem Loaded.carries (loaded : Loaded data metadata snapshot)
    (fresh : data.isResume = false → data.header.metadata = metadata) (header : MessageHeader)
    (resolved : GatewayProcessor.resolveReplyHeader data snapshot = some header) :
    header.metadata = metadata := by
  cases data with
  | resume resume =>
      obtain ⟨record, rfl, kept⟩ := loaded
      simp only [GatewayProcessor.resolveReplyHeader] at resolved
      split at resolved
      · cases resolved
      · cases resolved
        exact kept
  | _ =>
      simp only [GatewayProcessor.resolveReplyHeader] at resolved
      split at resolved
      · cases resolved
      · cases resolved
        exact fresh rfl

theorem loaded_round {memory : σ} (traceId : String) (loaded : Loaded data metadata snapshot)
    (fresh : data.isResume = false → data.header.metadata = metadata)
    (stored : ids.Stored (Keeping metadata) store) :
    (do
      let result ← Task.focus (fun _ => GatewayProcessor.newContext data traceId)
        (fun memory _ => memory)
        (tryCatch (GatewayProcessor.runMessage workerId data
            (GatewayProcessor.resolveReplyHeader data snapshot) handler
            (restoreInboundMetadata data snapshot))
          (GatewayProcessor.fail workerId data
            (GatewayProcessor.resolveReplyHeader data snapshot)))
      pure (some result) : Proc σ (Option HandlerValue)).wp
      (roundSetting ids besideRegistries
        (ProcessorFits ids workerId handler (readOf data metadata) metadata))
      (fun _ _ later => ids.Stored (Keeping metadata) later.1) memory (store, .handling) := by
  have handling : Unknowing ids (GatewayProcessor.newContext data traceId) :=
    ⟨fun _ listed => (nomatch listed), rfl⟩
  refine Task.wp_alone_bind (Task.wp_focus (Task.wp_alone_tryCatch (Task.wp_mono
    (runMessage_round loaded.reads (loaded.carries fresh) handling stored) ?_)) trivial)
  rintro outcome context ⟨middle, progress⟩ - ⟨handling, stored, begun⟩
  cases outcome with
  | ok value => exact Task.wp_alone_pure stored
  | error error =>
      refine Task.wp_mono (fail_round (loaded.carries fresh) handling stored begun) ?_
      rintro outcome _ later - stored
      cases outcome with
      | ok value => exact Task.wp_alone_pure stored
      | error error => exact stored

theorem loadExecutionSnapshot_finds {memory : σ} (mapped : ids.Mapped store)
    (addressed : ids.Addressed data.header) (stored : ids.Stored (Keeping metadata) store) :
    (if data.isResume then GatewayProcessor.loadExecutionSnapshot data else pure none :
      Proc σ (Option ExecutionRecord)).wp (.alone (roundServe ids besideRegistries))
      (fun outcome _ later => ∃ snapshot, outcome = .ok snapshot ∧
        Loaded data metadata snapshot ∧ later = store) memory store := by
  unfold Loaded
  split
  · obtain ⟨record, found, named, kept⟩ := stored
    unfold GatewayProcessor.loadExecutionSnapshot
    rw [addressed.sessionId, addressed.messageId]
    refine Task.wp_alone_tryCatch (Task.wp_mono (wp_lookup_round mapped found) ?_)
    rintro outcome memory last - ⟨rfl, rfl | ⟨⟨_, fails⟩, -⟩⟩
    · exact ⟨_, rfl, ⟨record, rfl, kept⟩, rfl⟩
    · exact fails.elim
  · exact Task.wp_alone_pure ⟨none, rfl, rfl, rfl⟩

theorem loadExecutionSnapshot_round {fits : Progress → ResumeCommand → Prop} {memory : σ}
    {progress : Progress} (mapped : ids.Mapped store) (addressed : ids.Addressed data.header)
    (stored : ids.Stored (Keeping metadata) store) :
    (if data.isResume then GatewayProcessor.loadExecutionSnapshot data else pure none :
      Proc σ (Option ExecutionRecord)).wp (roundSetting ids besideRegistries fits)
      (fun outcome _ later => (∃ snapshot, outcome = .ok snapshot ∧
        Loaded data metadata snapshot ∧ later.1 = store) ∧ later.2 = progress)
      memory (store, progress) := by
  have looks : (if data.isResume then GatewayProcessor.loadExecutionSnapshot data else pure none :
      Proc σ (Option ExecutionRecord)).Uses background := by
    split
    · exact Task.uses_tryCatch (getExecutionByMessageId_background _ _) fun _ => Task.uses_pure _
    · exact Task.uses_pure _
  refine wp_quiet (loadExecutionSnapshot_finds mapped addressed stored) looks
    (fun _ _ _ _ served => served) fun op quiet => ?_
  have called := Op.ofHandler_of_background quiet
  exact ⟨Op.sendsReply_of_handler called, Op.unmarked_of_handler called⟩

theorem process_round {memory : σ} (mapped : ids.Mapped store)
    (addressed : ids.Addressed data.header)
    (fresh : data.isResume = false → data.header.metadata = metadata)
    (stored : ids.Stored (Keeping metadata) store) :
    (GatewayProcessor.process workerId handler data : Proc σ (Option HandlerValue)).wp
      (roundSetting ids besideRegistries
        (ProcessorFits ids workerId handler (readOf data metadata) metadata))
      (fun _ _ later => ids.Stored (Keeping metadata) later.1) memory (store, .handling) := by
  refine Task.wp_alone_bind (Task.wp_mono (wp_besideRegistry_noted (traceId_beside data)) ?_)
  rintro outcome memory ⟨middle, _⟩ - ⟨same, rfl⟩
  replace stored := stored_of_hash stored same
  replace mapped := mapped.of_hash same
  cases outcome with
  | error error => exact stored
  | ok traceId =>
      refine Task.wp_alone_bind (Task.wp_mono
        (wp_besideRegistry_noted (passGate_beside workerId data)) ?_)
      rintro outcome memory ⟨last, _⟩ - ⟨same, rfl⟩
      replace stored := stored_of_hash stored same
      replace mapped := mapped.of_hash same
      cases outcome with
      | error error => exact stored
      | ok admitted =>
          cases admitted with
          | false => exact Task.wp_alone_pure stored
          | true =>
              refine Task.wp_alone_bind (Task.wp_mono
                (loadExecutionSnapshot_round mapped addressed stored) ?_)
              rintro _ memory ⟨_, _⟩ - ⟨⟨snapshot, rfl, loaded, rfl⟩, rfl⟩
              exact loaded_round traceId loaded fresh stored

end Turn

end ByFramework
