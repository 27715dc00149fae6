import ByFramework.RevealedWaits

/-!
Whether a wait is in the index before anyone can answer it: what the writes of a handler's calls
look like after each one of them, whatever Redis answers to the reads in between.
-/

namespace ByFramework

open Async

/-- Every stand-in queued since `origin` answers a wait that is in the index. -/
structure Backed (origin : AgentContext) (base : WaitList) (context : AgentContext)
    (listed : WaitList) : Prop where
  command : context.currentCommand = origin.currentCommand
  session : context.sessionId = origin.sessionId
  grown : base ⊆ listed
  queued : ∀ reply ∈ context.pendingGroupReplies,
    reply ∈ origin.pendingGroupReplies ∨ listed.holds reply.header.answers

section

variable {weather : Weather} {origin : AgentContext} {base : WaitList}

theorem Backed.grow {context : AgentContext} {listed later : WaitList}
    (backed : Backed origin base context listed) (grown : listed ⊆ later) :
    Backed origin base context later :=
  ⟨backed.command, backed.session, List.Subset.trans backed.grown grown, fun reply queued =>
    (backed.queued reply queued).imp_right fun held => grown held⟩

theorem Backed.note {before after : AgentContext} {listed : WaitList}
    (backed : Backed origin base before listed) (notes : AgentContext.Notes before after) :
    Backed origin base after listed :=
  ⟨notes.currentCommand.trans backed.command, notes.sessionId.trans backed.session,
    backed.grown, fun reply queued => backed.queued reply (notes.pendingGroupReplies ▸ queued)⟩

theorem Backed.suspend {context : AgentContext} {listed : WaitList}
    (backed : Backed origin base context listed) (state : String) :
    Backed origin base (context.suspend state) listed :=
  ⟨backed.command, backed.session, backed.grown, backed.queued⟩

theorem keeps_of_listing {α : Type} {task : Proc AgentContext α}
    (lists : ∀ context listed, Backed origin base context listed → task.wp (registering weather)
      (fun _ after later => after = context ∧ listed ⊆ later) context listed) :
    task.Keeps (registering weather) (Backed origin base) := by
  intro context listed backed
  refine Task.wp_mono (lists context listed backed) ?_
  rintro _ _ later - ⟨rfl, grown⟩
  exact backed.grow grown

theorem keeps_of_still {α : Type} {task : Proc AgentContext α}
    (uses : ∀ listed, task.Uses (still listed)
      (fun context => Backed origin base context listed)) :
    task.Keeps (registering weather) (Backed origin base) := by
  intro context listed backed
  refine Task.wp_mono (wp_still (uses listed) backed) ?_
  rintro _ _ _ - ⟨kept, rfl⟩
  exact kept

theorem hook_backed (name : String) :
    (hook name : Proc AgentContext PUnit).Keeps (registering weather) (Backed origin base) :=
  keeps_of_still fun _ => Task.uses_await ⟨trivial, fun _ => rfl⟩

theorem background_backed {α : Type} {task : Proc AgentContext α}
    (uses : ∀ inv, task.Uses background inv) :
    task.Keeps (registering weather) (Backed origin base) :=
  keeps_of_still fun _ => uses_of_background (uses _) still_of_background

structure CallAgentParams.HeldBack (weather : Weather) (context : AgentContext)
    (params : CallAgentParams) : Prop where
  waits : params.waitForReply = true
  content : hasContent params.content = true
  held : ByFramework.HeldBack weather params.routePolicy params.targetAgentType
    context.inheritedUserCode

theorem callAgent_backed (faultless : Faultless weather) {params : CallAgentParams}
    (unheld : ∀ context : AgentContext, context.currentCommand = origin.currentCommand →
      ¬ params.HeldBack weather context) :
    (AgentContext.callAgent params).Keeps (registering weather) (Backed origin base) := by
  refine Task.keeps_bind ?_ fun messageId => ?_
  · split
    · exact background_backed fun _ => shortId_background _
    · exact Task.keeps_pure _
  · intro context listed backed
    refine Task.wp_alone_bind (Task.wp_alone_get ?_)
    refine Task.keeps_bind (hook_backed _) (fun _ => ?_) context listed backed
    refine Task.keeps_bind (Task.keeps_tryCatch (keeps_of_listing fun _ _ _ => ?_) fun error => ?_)
      fun raw => ?_
    · refine publishCallAgent_listing faultless _ fun waits content held => ?_
      exact unheld context backed.command ⟨waits, content, held⟩
    · exact Task.keeps_bind (hook_backed _) fun _ => Task.keeps_throw _
    · split
      · exact Task.keeps_bind (hook_backed _) fun _ => Task.keeps_pure _
      · refine Task.keeps_bind (Task.keeps_modify fun context listed backed => ?_) fun _ =>
          Task.keeps_bind (hook_backed _) fun _ => Task.keeps_pure _
        unfold AgentContext.afterCall
        split
        · exact backed.suspend _
        · split
          · exact backed.note ⟨rfl, rfl, rfl, rfl, rfl, rfl, rfl, rfl⟩
          · exact backed

theorem askUser_backed (faultless : Faultless weather) (prompt : String)
    (replyTimeoutMs : Option Int) :
    (AgentContext.askUser prompt replyTimeoutMs).Keeps (registering weather)
      (Backed origin base) := by
  intro context listed backed
  refine Task.wp_alone_bind (Task.wp_alone_get ?_)
  refine Task.wp_alone_bind (Task.wp_mono (registerWait_listing faultless _) ?_)
  rintro _ context later - ⟨rfl, rfl, grown, held⟩
  have shown := backed.grow grown
  have emits : (emitLayout (context.dataMessage EventType.reasoningLogDelta)
      (context.layout (AgentContext.inputForm prompt) (.string "assistant")
        SseMessageType.taskUserInput) : Proc AgentContext PUnit).Uses (still later)
        (fun after => Backed origin base after later) := emitLayout_still fun _ => held
  refine Task.wp_alone_bind (Task.wp_mono (wp_still emits shown) ?_)
  rintro outcome _ _ - ⟨kept, rfl⟩
  cases outcome with
  | error error => exact kept
  | ok done => exact Task.wp_alone_modify (kept.suspend _)

theorem beginGroup_backed (taskGroupId : String) (total : Nat) (wait : Bool) :
    (AgentContext.beginGroup taskGroupId total wait).Keeps (registering weather)
      (Backed origin base) := by
  refine keeps_of_still fun listed => Task.uses_bind Task.uses_get fun context => ?_
  split
  · refine uses_redis_bind ⟨by rintro wait ⟨⟩, fun _ => rfl⟩ fun _ _ => ?_
    refine uses_redis_bind ⟨by rintro wait ⟨⟩, fun _ => rfl⟩ fun _ _ => ?_
    exact Task.uses_modify fun context backed => backed.suspend _
  · exact Task.uses_modify fun context backed =>
      backed.note ⟨rfl, rfl, rfl, rfl, rfl, rfl, rfl, rfl⟩

theorem probeGroupMemberOnline_backed (targetAgentType : String) :
    (AgentContext.probeGroupMemberOnline targetAgentType).Keeps (registering weather)
      (Backed origin base) :=
  Task.keeps_tryCatch (Task.keeps_bind
    (background_backed fun _ => hasOnlineAgentType_background _) fun _ => Task.keeps_pure _)
    fun _ => Task.keeps_pure _

theorem queueUndispatchedMemberFailure_backed (faultless : Faultless weather)
    (member : AgentContext.GroupMember) :
    (AgentContext.queueUndispatchedMemberFailure member).Keeps (registering weather)
      (Backed origin base) := by
  intro context listed backed
  refine Task.wp_alone_bind (Task.wp_alone_get ?_)
  refine Task.wp_alone_bind (Task.wp_mono (registerWait_listing faultless _) ?_)
  rintro _ context later - ⟨rfl, rfl, grown, held⟩
  have shown := backed.grow grown
  dsimp only
  split
  · exact Task.wp_alone_pure shown
  · have queues : (do
        let reply ← standInReply (context.undispatchedReply member)
        modify fun context =>
          { context with pendingGroupReplies := context.pendingGroupReplies ++ [reply] } :
        Proc AgentContext PUnit).Uses (still later)
          (fun after => Backed origin base after later) := by
      refine uses_standInReply_bind (still_of_background _ rfl) fun traceId reply built => ?_
      refine Task.uses_modify fun after backed =>
        ⟨backed.command, backed.session, backed.grown, fun other queued => ?_⟩
      rcases List.mem_append.mp queued with before | new
      · exact backed.queued other before
      · rw [List.mem_singleton.mp new, built]
        exact .inr held
    refine Task.wp_mono (wp_still queues shown) ?_
    rintro _ _ _ - ⟨kept, rfl⟩
    exact kept

theorem failMember_backed (faultless : Faultless weather) (member : AgentContext.GroupMember) :
    (AgentContext.failMember member).Keeps (registering weather) (Backed origin base) := by
  intro context listed backed
  refine Task.wp_alone_bind (Task.wp_alone_get ?_)
  refine Task.keeps_bind (background_backed fun _ => shortId_background _) (fun executionId => ?_)
    context listed backed
  refine Task.keeps_bind (background_backed fun _ => initializeExecution_background _) fun _ => ?_
  exact Task.keeps_bind (queueUndispatchedMemberFailure_backed faultless member)
    fun _ => hook_backed _

theorem publishMember_backed (faultless : Faultless weather) {member : AgentContext.GroupMember}
    {ask : AskAgentCommand} (asks : ∀ wait, askedWait ask = some wait →
      member.wait = true ∧ wait = ⟨origin.sessionId, member.parentMessageId, member.messageId,
        member.taskGroupId⟩) :
    (AgentContext.publishMember member ask).Keeps (registering weather) (Backed origin base) := by
  intro context listed backed
  refine Task.wp_alone_bind (Task.wp_alone_get ?_)
  refine Task.keeps_bind (background_backed fun _ => shortId_background _) (fun executionId => ?_)
    context listed backed
  refine Task.keeps_bind (background_backed fun _ => initializeExecution_background _) fun _ => ?_
  intro current before still
  have registered : (Task.when member.wait (registerWait (context.memberWait member)) :
      Proc AgentContext PUnit).wp (registering weather) (fun outcome after later =>
        outcome = .ok ⟨⟩ ∧ Backed origin base after later ∧ ∀ wait, askedWait ask = some wait →
          later.holds wait) current before := by
    refine Task.wp_alone_when (fun _ => ?_) fun silent => ?_
    · refine Task.wp_mono (registerWait_listing faultless _) ?_
      rintro _ _ _ - ⟨rfl, rfl, grown, held⟩
      refine ⟨rfl, still.grow grown, fun wait asked => ?_⟩
      rw [(asks wait asked).2, ← backed.session]
      exact held
    · exact ⟨rfl, still, fun wait asked => absurd (asks wait asked).1 silent⟩
  refine Task.wp_alone_bind (Task.wp_mono registered ?_)
  rintro _ after later - ⟨rfl, shown, held⟩
  refine Task.wp_alone_bind (Task.wp_alone_tryCatch (Task.wp_alone_bind
    (wp_redis_listing faultless (fun wait revealed => held wait (revealedWait_ask revealed))
      fun _ _ => Task.wp_alone_pure (hook_backed _ after later shown))))

theorem dispatchMember_backed (faultless : Faultless weather) (taskGroupId : String)
    (params : DispatchGroupParams) (task : GroupTask) :
    (AgentContext.dispatchMember taskGroupId params task).Keeps (registering weather)
      (Backed origin base) := by
  refine Task.keeps_bind (background_backed fun _ => shortId_background _) fun messageId => ?_
  intro context listed backed
  refine Task.wp_alone_bind (Task.wp_alone_get ?_)
  dsimp only
  generalize named : AgentContext.GroupMember.mk taskGroupId messageId
    (orElseText params.parentMessageId context.currentMessageId) task params.waitForReply
    params.replyTimeoutMs = member
  generalize made : AskAgentCommand.make (context.memberHeader member) (.string task.content)
    params.waitForReply (dropWaitForReply task.payload) = outcome
  cases outcome with
  | error error =>
      refine Task.wp_alone_bind ?_
      exact Task.wp_alone_throw backed
  | ok ask =>
      obtain ⟨header, waits, _⟩ := AskAgentCommand.make_fields made
      refine Task.wp_alone_bind (Task.wp_alone_pure ?_)
      refine Task.keeps_bind (hook_backed _) (fun _ => ?_) context listed backed
      refine Task.keeps_bind ?_ fun online => ?_
      · split
        · exact probeGroupMemberOnline_backed _
        · exact Task.keeps_pure _
      · split
        · refine Task.keeps_bind (publishMember_backed faultless fun wait asked => ?_)
            fun _ => Task.keeps_pure _
          unfold askedWait at asked
          split at asked
          · rename_i asks
            cases asked
            rw [waits] at asks
            rw [header, ← backed.session]
            subst named
            exact ⟨asks, rfl⟩
          · cases asked
        · exact Task.keeps_bind (failMember_backed faultless member) fun _ => Task.keeps_pure _

theorem dispatchGroup_backed (faultless : Faultless weather) (params : DispatchGroupParams) :
    (AgentContext.dispatchGroup params).Keeps (registering weather) (Backed origin base) := by
  unfold AgentContext.dispatchGroup
  split
  · exact Task.keeps_pure _
  · refine Task.keeps_bind (background_backed fun _ => shortId_background _) fun taskGroupId => ?_
    refine Task.keeps_bind (beginGroup_backed _ _ _) fun _ => ?_
    refine Task.keeps_bind (Task.keeps_mapEach _ fun task _ => ?_) fun _ => Task.keeps_pure _
    exact dispatchMember_backed faultless _ _ _

/-! ### Whole handlers -/

theorem flushToHistory_backed :
    AgentContext.flushToHistory.Keeps (registering weather) (Backed origin base) := by
  refine keeps_of_still fun listed => Task.uses_bind Task.uses_get fun context => ?_
  split
  · exact Task.uses_pure _
  · refine Task.uses_bind (Task.uses_bind (Task.uses_await ⟨trivial, fun _ => rfl⟩)
      fun outcome => uses_orThrow outcome) fun _ => ?_
    exact Task.uses_modify fun context backed =>
      backed.note ⟨rfl, rfl, rfl, rfl, rfl, rfl, rfl, rfl⟩

theorem emitLayout_backed {message : DataMessage} {params : SseLayoutParams}
    (other : params.contentType ≠ SseMessageType.taskUserInput) :
    (emitLayout message params : Proc AgentContext PUnit).Keeps (registering weather)
      (Backed origin base) :=
  keeps_of_still fun _ => emitLayout_still fun form => absurd form other

theorem emitChunk_backed (content eventType : String) :
    (AgentContext.emitChunk content eventType).Keeps (registering weather)
      (Backed origin base) := by
  refine Task.keeps_bind (Task.keeps_modify fun context listed backed => ?_) fun _ => ?_
  · split
    · exact backed
    · exact backed.note ⟨rfl, rfl, rfl, rfl, rfl, rfl, rfl, rfl⟩
  intro context listed backed
  have text : SseMessageType.text ≠ SseMessageType.taskUserInput := by decide
  refine Task.wp_alone_bind (Task.wp_alone_get ?_)
  refine Task.keeps_bind (emitLayout_backed text) (fun _ => ?_) context listed backed
  unfold Task.when
  split
  · refine Task.keeps_bind (Task.keeps_modify fun context listed backed => ?_) fun _ =>
      flushToHistory_backed
    exact backed.note ⟨rfl, rfl, rfl, rfl, rfl, rfl, rfl, rfl⟩
  · exact Task.keeps_pure _

theorem emitState_backed (state : String) :
    (AgentContext.emitState state).Keeps (registering weather) (Backed origin base) := by
  intro context listed backed
  have title : SseMessageType.thinkTitle ≠ SseMessageType.taskUserInput := by decide
  exact Task.wp_alone_bind (Task.wp_alone_get (emitLayout_backed title context listed backed))

theorem checkCancelled_backed :
    AgentContext.checkCancelled.Keeps (registering weather) (Backed origin base) := by
  refine keeps_of_still fun listed => Task.uses_bind Task.uses_get fun context => ?_
  refine Task.uses_bind ?_ fun reason => ?_
  · unfold AgentContext.abortReason
    split
    · exact Task.uses_pure _
    · exact Task.uses_await ⟨trivial, fun _ => rfl⟩
  · cases reason with
    | none => exact Task.uses_pure _
    | some reason => exact Task.uses_throw _

/-- A handler none of whose calls the router may hold back. -/
def Handler.Unheld (weather : Weather) (origin : AgentContext) : Handler → Prop
  | .callAgent params next =>
      (∀ context : AgentContext, context.currentCommand = origin.currentCommand →
        ¬ params.HeldBack weather context) ∧ ∀ outcome, (next outcome).Unheld weather origin
  | .dispatchGroup _ next => ∀ outcome, (next outcome).Unheld weather origin
  | .askUser _ _ next | .emitChunk _ _ next | .emitState _ next | .flushToHistory next
  | .checkCancelled next => ∀ outcome, (next outcome).Unheld weather origin
  | .setFinalAnswerEmitted _ next | .setStreamFinished _ next
  | .setTraceParentObservationId _ next => next.Unheld weather origin
  | .dateNow next => ∀ now, (next now).Unheld weather origin
  | .returns _ | .throws _ => True

theorem Handler.run_backed (faultless : Faultless weather) (handler : Handler)
    (unheld : handler.Unheld weather origin) :
    handler.run.Keeps (registering weather) (Backed origin base) := by
  have noted (change : AgentContext → AgentContext)
      (notes : ∀ context, AgentContext.Notes context (change context)) :
      (modify change : Proc AgentContext PUnit).Keeps (registering weather) (Backed origin base) :=
    Task.keeps_modify fun context listed backed => backed.note (notes context)
  induction handler with
  | returns value => exact Task.keeps_pure _
  | throws error => exact Task.keeps_throw _
  | callAgent params next ih =>
      exact Task.keeps_bind (Task.keeps_attempt (callAgent_backed faultless unheld.1))
        fun outcome => ih outcome (unheld.2 outcome)
  | dispatchGroup params next ih =>
      exact Task.keeps_bind (Task.keeps_attempt (dispatchGroup_backed faultless params))
        fun outcome => ih outcome (unheld outcome)
  | askUser prompt replyTimeoutMs next ih =>
      exact Task.keeps_bind (Task.keeps_attempt (askUser_backed faultless prompt replyTimeoutMs))
        fun outcome => ih outcome (unheld outcome)
  | emitChunk content eventType next ih =>
      exact Task.keeps_bind (Task.keeps_attempt (emitChunk_backed content eventType))
        fun outcome => ih outcome (unheld outcome)
  | emitState state next ih =>
      exact Task.keeps_bind (Task.keeps_attempt (emitState_backed state))
        fun outcome => ih outcome (unheld outcome)
  | flushToHistory next ih =>
      exact Task.keeps_bind (Task.keeps_attempt flushToHistory_backed)
        fun outcome => ih outcome (unheld outcome)
  | checkCancelled next ih =>
      exact Task.keeps_bind (Task.keeps_attempt checkCancelled_backed)
        fun outcome => ih outcome (unheld outcome)
  | setFinalAnswerEmitted emitted next ih =>
      exact Task.keeps_bind (noted _ fun _ => ⟨rfl, rfl, rfl, rfl, rfl, rfl, rfl, rfl⟩)
        fun _ => ih unheld
  | setStreamFinished finished next ih =>
      exact Task.keeps_bind (noted _ fun _ => ⟨rfl, rfl, rfl, rfl, rfl, rfl, rfl, rfl⟩)
        fun _ => ih unheld
  | setTraceParentObservationId id next ih =>
      exact Task.keeps_bind (noted _ fun _ => ⟨rfl, rfl, rfl, rfl, rfl, rfl, rfl, rfl⟩)
        fun _ => ih unheld
  | dateNow next ih =>
      exact Task.keeps_bind (background_backed fun _ => dateNow_background)
        fun now => ih now (unheld now)

/-- A handler's calls, and then the stand-ins that its fan-outs queued. -/
def Handler.dispatches (handler : Handler) : Proc AgentContext PUnit := do
  let _ ← handler.run
  flushPendingGroupReplies (← AgentContext.takePendingGroupReplies)

theorem flushPendingGroupReplies_listing {replies : List ResumeCommand} {context : AgentContext}
    {listed : WaitList} (held : ∀ reply ∈ replies, listed.holds reply.header.answers) :
    (flushPendingGroupReplies replies : Proc AgentContext PUnit).wp (registering weather)
      (fun _ _ _ => True) context listed := by
  have uses : (flushPendingGroupReplies replies : Proc AgentContext PUnit).Uses (still listed) := by
    refine Task.uses_forEach _ fun reply queued => Task.uses_failSoft (uses_redis_bind ?_
      fun _ _ => Task.uses_pure _)
    refine ⟨fun wait revealed => ?_, fun _ => rfl⟩
    cases revealed
    exact held reply queued
  exact Task.wp_mono (wp_still uses trivial) fun _ _ _ _ _ => trivial

theorem Handler.dispatches_listing (faultless : Faultless weather) {handler : Handler}
    (unheld : handler.Unheld weather origin) {listed : WaitList}
    (held : ∀ reply ∈ origin.pendingGroupReplies, listed.holds reply.header.answers) :
    handler.dispatches.wp (registering weather) (fun _ _ _ => True) origin listed := by
  have backed : Backed origin listed origin listed :=
    ⟨rfl, rfl, List.Subset.refl _, fun reply queued => .inl queued⟩
  refine Task.wp_alone_bind
    (Task.wp_mono (handler.run_backed faultless unheld origin listed backed) ?_)
  intro outcome context later _ kept
  cases outcome with
  | error error => trivial
  | ok value =>
      refine Task.wp_alone_bind (Task.wp_alone_bind (Task.wp_alone_get ?_))
      refine Task.wp_alone_bind (Task.wp_alone_modify (Task.wp_alone_pure ?_))
      refine flushPendingGroupReplies_listing fun reply queued => ?_
      rcases kept.queued reply queued with before | now
      · exact kept.grown (held reply before)
      · exact now

end

/-! ### A call that is held back -/

section

variable {σ : Type} {weather : Weather} {memory : σ} {listed : WaitList}

theorem redis_ends {β : Type} {command : RedisCommand} {value : command.Reply}
    {next : command.Reply → Proc σ β} {outcome : Except JsError β × σ} {later : WaitList}
    (answered : weather (.redis command) (.ok value))
    (rest : ((next value).start memory).Ends (listing weather)
      (listed.note (.redis command) (.ok value)) outcome later) :
    ((redis command >>= next).start memory).Ends (listing weather) listed outcome later := by
  rw [start_redis_bind]
  exact .call ⟨answered, rfl⟩ rest

theorem readJson_ends {key : Key} {fields : JsonObject} (may : MayRead weather key fields) :
    ((readJson key : Proc σ _).start memory).Ends (listing weather) listed
      (.ok fields, memory) listed := by
  obtain ⟨found, answered, rfl⟩ := may
  refine redis_ends answered ?_
  unfold foundFields
  split
  · exact .done
  · rename_i other
    split
    · exact absurd rfl (other _)
    · exact .done

theorem onlineOf_ends {workers : List String} (offline : ∀ workerId ∈ workers, ∃ lease,
    weather (.redis (.get (.workerOnlineLease workerId))) (.ok lease) ∧
      showsOnline lease = false) :
    ((onlineOf workers : Proc σ _).start memory).Ends (listing weather) listed
      (.ok [], memory) listed := by
  induction workers with
  | nil => exact .done
  | cons workerId rest ih =>
      obtain ⟨lease, answered, away⟩ := offline workerId (by simp)
      have probed : ((isWorkerOnline workerId : Proc σ Bool).start memory).Ends (listing weather)
          listed (.ok false, memory) listed := by
        refine redis_ends answered ?_
        have same : (Option.isSome lease && ((decodeWorkerPresence lease).isLegacy ||
          decide (0 < (decodeWorkerPresence lease).lastSeen))) = false := away
        dsimp only
        rw [same]
        exact .done
      refine Task.ends_bind probed (Task.ends_bind (ih fun other inRest =>
        offline other (by simp [inRest])) .done)

theorem hasOnlineAgentType_ends {agentType : String} (offline : MayBeOffline weather agentType) :
    ((hasOnlineAgentType agentType : Proc σ _).start memory).Ends (listing weather) listed
      (.ok [], memory) listed := by
  obtain ⟨workers, answered, away⟩ := offline
  exact redis_ends answered (onlineOf_ends away)

theorem quotaRejection_ends {userCode : String} (available : userCode = "" ∨ ∃ fields,
    MayRead weather (.controlPlaneUserQuota userCode) fields ∧
      fields.lookup "available" ≠ some (.bool false)) :
    ((quotaRejection userCode : Proc σ _).start memory).Ends (listing weather) listed
      (.ok none, memory) listed := by
  unfold quotaRejection
  split
  · exact .done
  · rename_i named
    obtain ⟨fields, may, free⟩ := available.resolve_left named
    refine Task.ends_bind (readJson_ends may) ?_
    split
    · rename_i exhausted
      exact absurd exhausted free
    · exact .done

def queues (intent : DeliveryIntent) : Op :=
  .redis (.xadd .controlPlaneDeliveryPendingStream
    (.pendingDelivery (.ctrlStream intent.targetAgentType) intent))

theorem queuePending_reaches {intent : DeliveryIntent} :
    ((queuePending intent : Proc σ _).start memory).Reaches (listing weather) listed
      (queues intent) listed :=
  .here

theorem prepareDelivery_reaches (faultless : Faultless weather) {intent : DeliveryIntent}
    (held : HeldBack weather intent.policy intent.targetAgentType intent.userCode) :
    ((prepareDelivery intent : Proc σ _).start memory).Reaches (listing weather) listed
      (queues intent) listed := by
  obtain ⟨queued, ⟨circuit, readCircuit, closed⟩, quota, offline, fallback, readFallback,
    unreachable⟩ := held
  have supported : intent.policy.isSupported = true := by
    rcases queued with policy | policy <;> rw [policy] <;> rfl
  have routed : intent.policy ≠ .sendAnyway := by
    rcases queued with policy | policy <;> rw [policy] <;> decide
  have waits : ((routeOffline intent : Proc σ _).start memory).Reaches (listing weather) listed
      (queues intent) listed := by
    unfold routeOffline
    rcases queued with policy | policy
    · rw [policy]
      exact queuePending_reaches
    · rw [policy]
      obtain ⟨reply, answered⟩ := faultless.answers
        (.redis (.xadd .controlPlaneWakeupStream (.wakeup intent)))
      obtain ⟨value, rfl⟩ := faultless.succeeds _ reply answered
      have woken : ((publishWakeup intent : Proc σ PUnit).start memory).Ends (listing weather)
          listed (.ok ⟨⟩, memory) listed := redis_ends answered .done
      exact Task.reaches_after woken queuePending_reaches
  unfold prepareDelivery
  rw [supported, Bool.not_true, if_neg Bool.false_ne_true]
  refine Task.reaches_after (readJson_ends readCircuit) ?_
  rw [if_neg closed]
  refine Task.reaches_after (quotaRejection_ends quota) ?_
  dsimp only
  rw [if_neg routed]
  refine Task.reaches_after (hasOnlineAgentType_ends offline) ?_
  refine Task.reaches_after (readJson_ends readFallback) ?_
  have reachable : ((if fallbackType fallback = "" then pure []
      else hasOnlineAgentType (fallbackType fallback) : Proc σ _).start memory).Ends
        (listing weather) listed (.ok [], memory) listed := by
    split
    · exact .done
    · rename_i named
      exact hasOnlineAgentType_ends (unreachable.resolve_left named)
  exact Task.reaches_after reachable waits

end

section

variable {weather : Weather} {context : AgentContext} {listed : WaitList}

theorem generateMessageId_ends {σ : Type} {memory : σ} {id : String} (fresh : weather .uuid id) :
    ((generateMessageId : Proc σ String).start memory).Ends (listing weather) listed
      (.ok ("msg-" ++ String.ofList (id.toList.take 8)), memory) listed :=
  .call ⟨fresh, rfl⟩ .done

theorem publishCall_reaches (faultless : Faultless weather) {id : String}
    (fresh : weather .uuid id) {input : CallAgentPublishInput} (messageId : String)
    (waits : input.waitForReply = true) (content : hasContent input.content = true)
    (keeps : HeldBack weather input.routePolicy input.targetAgentType input.userCode) :
    ∃ intent wait, intent.wait = some wait ∧
      ((publishCall input messageId : Proc AgentContext _).start context).Reaches
        (listing weather) [] (queues intent) [] := by
  obtain ⟨command, made⟩ : ∃ command, AskAgentCommand.make (askAgentHeader input messageId
      (orElseText input.parentMessageId input.defaultParentMessageId)) input.content
      input.waitForReply (dropWaitForReply input.extraPayload) = .ok command :=
    ⟨_, dif_pos content⟩
  have asked : command.waitForReply = true := (AskAgentCommand.make_fields made).2.1.trans waits
  have built : ((orThrow (AskAgentCommand.make (askAgentHeader input messageId
      (orElseText input.parentMessageId input.defaultParentMessageId)) input.content
      input.waitForReply (dropWaitForReply input.extraPayload)) :
      Proc AgentContext _).start context).Ends (listing weather) []
        (.ok command, context) [] := by
    rw [made]
    exact .done
  have numbered : ((generateExecutionId : Proc AgentContext String).start context).Ends
      (listing weather) [] (.ok ("exec-" ++ String.ofList (id.toList.take 8)), context) [] :=
    .call ⟨fresh, rfl⟩ .done
  refine ⟨callIntent input command ("exec-" ++ String.ofList (id.toList.take 8)),
    command.header.asks, if_pos asked, ?_⟩
  refine Task.reaches_after built (Task.reaches_after numbered ?_)
  exact Task.reaches_bind (prepareDelivery_reaches faultless keeps) _

theorem publishCallAgent_reaches (faultless : Faultless weather) {id : String}
    (fresh : weather .uuid id) {params : CallAgentParams} (held : params.HeldBack weather context)
    (messageId : String) :
    ∃ intent wait, intent.wait = some wait ∧
      ((publishCallAgent (context.callInput params messageId) : Proc AgentContext _).start
        context).Reaches (listing weather) [] (queues intent) [] := by
  have input : (context.callInput params messageId).messageId = messageId := rfl
  obtain ⟨intent, wait, asked, reached⟩ := @publishCall_reaches weather context faultless id fresh
    (context.callInput params messageId)
    (orElseText messageId ("msg-" ++ String.ofList (id.toList.take 8))) held.waits held.content
    held.held
  refine ⟨intent, wait, asked, ?_⟩
  unfold orElseText at reached
  unfold publishCallAgent
  rw [input]
  split at reached
  · rename_i blank
    rw [if_pos blank]
    exact Task.reaches_after (generateMessageId_ends fresh) reached
  · rename_i named
    rw [if_neg named]
    exact Task.reaches_after .done reached

/-- A call that may be held back is in the pending stream before its wait is in the index. -/
theorem callAgent_reaches (faultless : Faultless weather) {params : CallAgentParams}
    (held : params.HeldBack weather context) :
    ∃ intent wait, intent.wait = some wait ∧
      ((AgentContext.callAgent params).start context).Reaches (listing weather) []
        (queues intent) [] := by
  obtain ⟨id, fresh⟩ := faultless.answers .uuid
  obtain ⟨reply, hooked⟩ := faultless.answers (.hook "onCallAgentStart")
  obtain ⟨intent, wait, asked, reached⟩ := publishCallAgent_reaches faultless fresh held
    (orElseText params.messageId ("msg-" ++ String.ofList (id.toList.take 8)))
  refine ⟨intent, wait, asked, ?_⟩
  have started : ((hook "onCallAgentStart" : Proc AgentContext PUnit).start context).Ends
      (listing weather) [] (.ok reply, context) [] := .call ⟨hooked, rfl⟩ .done
  have called (messageId : String) (reached : ((publishCallAgent
      (context.callInput params messageId) : Proc AgentContext _).start context).Reaches
        (listing weather) [] (queues intent) []) : ((do
      let context ← get
      hook "onCallAgentStart"
      let raw ← tryCatch (publishCallAgent (context.callInput params messageId)) fun error => do
        hook "onCallAgentError"
        throw error
      if raw.status = AgentState.failed then
        hook "onCallAgentError"
        pure (AgentContext.callResult raw)
      else
        modify fun context => context.afterCall raw.runtimeHint params.waitForReply
        hook "onCallAgentComplete"
        pure (AgentContext.callResult raw) : Proc AgentContext _).start context).Reaches
        (listing weather) [] (queues intent) [] := by
    have known : ((get : Proc AgentContext AgentContext).start context).Ends (listing weather) []
        (.ok context, context) [] := .done
    refine Task.reaches_after known (Task.reaches_after started ?_)
    exact Task.reaches_bind (Task.reaches_tryCatch reached _) _
  unfold orElseText at reached
  unfold AgentContext.callAgent
  split at reached
  · rename_i blank
    rw [if_pos blank]
    exact Task.reaches_after (generateMessageId_ends fresh) (called _ reached)
  · rename_i named
    rw [if_neg named]
    exact Task.reaches_after .done (called _ reached)

/-- On every path a wait is in the index before anyone can answer it, for exactly the calls that
the router cannot hold back, and in every handler that makes no other call. -/
theorem registered_before_visible_iff (faultless : Faultless weather) :
    (∀ (params : CallAgentParams) (context : AgentContext),
      (∀ listed, (AgentContext.callAgent params).wp (registering weather) (fun _ _ _ => True)
        context listed) ↔ ¬ params.HeldBack weather context) ∧
    ∀ (handler : Handler) (context : AgentContext) (listed : WaitList),
      handler.Unheld weather context →
        (∀ reply ∈ context.pendingGroupReplies, listed.holds reply.header.answers) →
          handler.dispatches.wp (registering weather) (fun _ _ _ => True) context listed := by
  refine ⟨fun params context => ⟨fun registers held => ?_, fun unheld listed => ?_⟩,
    fun handler context listed unheld held => handler.dispatches_listing faultless unheld held⟩
  · obtain ⟨intent, wait, asked, reached⟩ := callAgent_reaches faultless held
    have revealed := Prog.wp_reaches reached (registers [])
    exact absurd (revealed wait asked) List.not_mem_nil
  · have backed : Backed context listed context listed :=
      ⟨rfl, rfl, List.Subset.refl _, fun reply queued => .inl queued⟩
    have every (other : AgentContext) (same : other.currentCommand = context.currentCommand) :
        ¬ params.HeldBack weather other := by
      rintro ⟨waits, content, held⟩
      refine unheld ⟨waits, content, ?_⟩
      rw [AgentContext.inheritedUserCode, AgentContext.askHeader, same] at held
      exact held
    exact Task.wp_mono (callAgent_backed faultless every context listed backed)
      fun _ _ _ _ _ => trivial

end

/-- Redis takes every command, and whatever it answers may come back. -/
def clearSky : Weather
  | .redis _, reply => ∃ value, reply = .ok value
  | _, _ => True

theorem clearSky_faultless : Faultless clearSky where
  answers op := by
    cases op with
    | redis command =>
        have inhabited : Nonempty command.Reply := by cases command <;> exact ⟨default⟩
        obtain ⟨value⟩ := inhabited
        exact ⟨.ok value, value, rfl⟩
    | process workerId request =>
        have inhabited : Nonempty request.Reply := by
          cases request <;> first | exact ⟨default⟩ | exact ⟨⟨true, "", ""⟩⟩
        obtain ⟨reply⟩ := inhabited
        exact ⟨reply, trivial⟩
    | now => exact ⟨(0 : Int), trivial⟩
    | uuid => exact ⟨"", trivial⟩
    | hook name => exact ⟨(), trivial⟩
    | _ => exact ⟨.error ⟨"Error", ""⟩, trivial⟩
  succeeds _ _ answered := answered

def queuedCall : CallAgentParams :=
  { targetAgentType := "callee", content := .string "question", routePolicy := .queueOnly }

def callingContext : AgentContext :=
  { sessionId := "session"
    traceId := "trace"
    currentAgentType := "caller"
    currentMessageId := "msg-caller"
    workerId := "worker"
    currentCommand := .askAgent
      { header := { messageId := "msg-caller", sessionId := "session", traceId := "trace" }
        content := .string "task"
        nonEmpty := Eq.refl true } }

def promptingHandler : Handler := .askUser "which?" none fun _ => .returns (.json .null)

theorem registered_before_visible_under_clear_sky :
    ((∀ listed, (AgentContext.callAgent queuedCall).wp (registering clearSky) (fun _ _ _ => True)
      callingContext listed) ↔ ¬ queuedCall.HeldBack clearSky callingContext) ∧
    promptingHandler.dispatches.wp (registering clearSky) (fun _ _ _ => True) callingContext [] :=
  ⟨(registered_before_visible_iff clearSky_faultless).1 queuedCall callingContext,
    (registered_before_visible_iff clearSky_faultless).2 promptingHandler callingContext []
      (fun _ => trivial) (by simp [callingContext])⟩

/-- How many pending deliveries and waits there are after each command. -/
def countingAnswer (state : RedisStore × List (Nat × Nat)) (op : Op) :
    op.Reply × (RedisStore × List (Nat × Nat)) :=
  let (reply, store) := redisAnswer state.1 op
  (reply, store, state.2 ++ [((store.stream .controlPlaneDeliveryPendingStream).entries.length,
    (store.scored (waitIndexKey "session")).length)])

/-- The command of a queued call lies in the pending stream while its wait is in no index. -/
theorem queued_call_visible_unregistered :
    (1, 0) ∈ (Prog.run countingAnswer ((AgentContext.callAgent queuedCall).start callingContext)
      (Redis.Store.empty, [])).2.2 := by
  decide +kernel

end ByFramework
