import ByFramework.StoredAnswer

/-!
The reply a sweep sends in a callee's place beside the one the callee would have sent: on which
fields the two agree, and for which dispatches they agree on all of them.
-/

namespace ByFramework

open Async

/-- A dispatch whose caller waits, and the record that names the same wait. -/
structure WaitingDispatch where
  header : MessageHeader
  record : ExecutionRecord
  waits : header.sourceAgentType ≠ ""
  asked : record.asks = header.asks
  sourced : record.sourceAgentType = header.sourceAgentType

/-- The command that made the callee reply: its dispatch, or whatever resumed it last. -/
structure WaitingDispatch.Owes (dispatch : WaitingDispatch) (command reply : GatewayCommand) :
    Prop where
  owed : resolveReplyCommand command (some dispatch.record) = some reply
  fresh : command.isResume = false → command.header = dispatch.header
  message : command.header.messageId = dispatch.header.messageId
  session : command.header.sessionId = dispatch.header.sessionId

def anyReply : Contract effects := .only fun _ => True

def storesResult (childMessageId : String) (result : StoredResult) : Contract effects where
  allowed _ := True
  expected
    | .redis (.hget key field), .ok found =>
        key = .taskGroupResults (singleCallTaskGroupId childMessageId) → field = childMessageId →
          found = some (.result result)
    | _, _ => True

def sends (key : Key) (reply : ResumeCommand) : Op := .redis (.xadd key (.command (.resume reply)))

/-- Send no reply but those of which `holds` is true. -/
def onlySends (holds : Key → ResumeCommand → Prop)
    (expected : (op : Op) → op.Reply → Prop) : Contract effects where
  allowed op := ∀ key reply, op = sends key reply → holds key reply
  expected := expected

theorem onlySends_background {holds : Key → ResumeCommand → Prop}
    {expected : (op : Op) → op.Reply → Prop} (op : Op) (quiet : op.isBackground = true) :
    (onlySends holds expected).allowed op := by
  rintro key reply rfl
  cases quiet

structure SameAddress (leftKey rightKey : Key) (left right : MessageHeader) : Prop where
  stream : leftKey = rightKey
  messageId : left.messageId = right.messageId
  parentMessageId : left.parentMessageId = right.parentMessageId
  sessionId : left.sessionId = right.sessionId
  traceId : left.traceId = right.traceId
  taskGroupId : left.taskGroupId = right.taskGroupId
  sourceAgentType : left.sourceAgentType = right.sourceAgentType
  targetAgentType : left.targetAgentType = right.targetAgentType
  userCode : left.userCode = right.userCode
  userName : left.userName = right.userName

def provenanceKeys : List String :=
  ["sweeper_worker_id", "synthesized_by", "liveness_error_code", "child_message_id"]

/-- A recovered answer: the callee's, with nothing but provenance added to its metadata. -/
structure SameAnswer (standIn real : ResumeCommand) : Prop where
  status : standIn.status = real.status
  content : standIn.content = real.content
  replyData : standIn.replyData = real.replyData
  extraPayload : standIn.extraPayload = real.extraPayload
  kept : ∀ name value, real.header.metadata.lookup name = some value →
    standIn.header.metadata.lookup name = some value
  added : ∀ name, standIn.header.metadata.lookup name ≠ none →
    real.header.metadata.lookup name ≠ none ∨ name ∈ provenanceKeys

section

variable {options : SweeperOptions} {due : DueEntry} {caller : ExecutionRecord}

/-- What `emitReply` builds its stand-in from. -/
def emittedParams (options : SweeperOptions) (due : DueEntry) (caller : ExecutionRecord)
    (params : StandInParams) : StandInReplyParams :=
  { sessionId := due.entry.sessionId
    callerMessageId := due.entry.parentMessageId
    callerAgentType := orElseText
      ((params.child.map ExecutionRecord.sourceAgentType).getD "") caller.targetAgentType
    childMessageId := due.entry.childMessageId
    childAgentType := (params.child.map ExecutionRecord.targetAgentType).getD ""
    taskGroupId := due.entry.taskGroupId
    traceId := orElseText ((params.child.map ExecutionRecord.traceId).getD "") caller.traceId
    status := params.status
    content := params.content
    replyData := params.replyData
    extraPayload := params.extraPayload
    metadata := spread params.metadata [("sweeper_worker_id", .string options.workerId)]
    errorCode := params.errorCode
    synthesizedBy := synthesizedBySweeper }

theorem emitReply_routed {σ : Type} {params : StandInParams}
    (routed : (emittedParams options due caller params).callerAgentType ≠ "") :
    (emitReply options due caller params : Proc σ Bool) = (do
      let command ← standInReply (emittedParams options due caller params)
      let _ ← redis (.xadd (.ctrlStream (emittedParams options due caller params).callerAgentType)
        (.command (.resume command)))
      extendDeadline due
      pure true) :=
  if_neg routed

theorem ResumeCommand.make_valid {header : MessageHeader} {content : JsonValue} {status : String}
    {replyData : JsonValue} {extraPayload : JsonObject}
    (valid : status ≠ "" ∨ hasContent content = true) :
    ResumeCommand.make header content status replyData extraPayload =
      .ok { header, content, status, replyData, extraPayload, nonEmpty := valid } :=
  dif_pos valid

/-- The stand-in that `params` make under a trace id. -/
def standInOf (params : StandInReplyParams) (traceId : String) : Except JsError ResumeCommand :=
  ResumeCommand.make (standInHeader params traceId) params.content params.status params.replyData
    params.extraPayload

theorem standInReply_eq {σ : Type} (params : StandInReplyParams) :
    (standInReply params : Proc σ ResumeCommand) =
      (if params.traceId = "" then plainId else pure params.traceId) >>= fun traceId =>
        orThrow (standInOf params traceId) :=
  rfl

/-- A stand-in made of `params`, under their trace id or, where they have none, a fresh one. -/
def MadeOf (params : StandInReplyParams) (reply : ResumeCommand) : Prop :=
  ∃ traceId, (params.traceId = traceId ∨ params.traceId = "") ∧
    standInOf params traceId = .ok reply

theorem extendDeadline_onlySends {σ : Type} {holds : Key → ResumeCommand → Prop}
    {expected : (op : Op) → op.Reply → Prop} :
    (extendDeadline due : Proc σ PUnit).Uses (onlySends holds expected) := by
  refine Task.uses_bind (Task.uses_failSoft (uses_redis_bind (onlySends_background _ rfl)
    fun _ _ => Task.uses_pure _)) fun _ => ?_
  refine Task.uses_bind (uses_of_background dateNow_background onlySends_background) fun now => ?_
  exact uses_redis_bind (by rintro key reply ⟨⟩) fun _ _ => Task.uses_pure _

/-- A stand-in goes to its caller, made of what `emitReply` is given. -/
def Emitted (options : SweeperOptions) (due : DueEntry) (caller : ExecutionRecord)
    (params : StandInParams) (key : Key) (reply : ResumeCommand) : Prop :=
  key = .ctrlStream (emittedParams options due caller params).callerAgentType ∧
    MadeOf (emittedParams options due caller params) reply

theorem emitReply_onlySends {σ : Type} {params : StandInParams}
    {expected : (op : Op) → op.Reply → Prop} :
    (emitReply options due caller params : Proc σ Bool).Uses
      (onlySends (Emitted options due caller params) expected) := by
  by_cases unroutable : (emittedParams options due caller params).callerAgentType = ""
  · have silent : (emitReply options due caller params : Proc σ Bool) = (do
        extendDeadline due
        pure false) := if_pos unroutable
    rw [silent]
    exact Task.uses_bind extendDeadline_onlySends fun _ => Task.uses_pure _
  · have made (traceId : String) (named : (emittedParams options due caller params).traceId =
        traceId ∨ (emittedParams options due caller params).traceId = "") : (do
        let command ← orThrow (standInOf (emittedParams options due caller params) traceId)
        let _ ← redis (.xadd
          (.ctrlStream (emittedParams options due caller params).callerAgentType)
          (.command (.resume command)))
        extendDeadline due
        pure true : Proc σ Bool).Uses
          (onlySends (Emitted options due caller params) expected) := by
      cases built : standInOf (emittedParams options due caller params) traceId with
      | error error => exact Task.uses_throw_bind _ _
      | ok command =>
          refine uses_redis_bind ?_ fun _ _ => ?_
          · rintro key reply same
            cases same
            exact ⟨rfl, traceId, named, built⟩
          · exact Task.uses_bind extendDeadline_onlySends fun _ => Task.uses_pure _
    rw [emitReply_routed unroutable, standInReply_eq, bind_assoc]
    split
    · rename_i blank
      exact Task.uses_bind (uses_of_background plainId_background onlySends_background)
        fun traceId => made traceId (.inr blank)
    · rw [pure_bind]
      exact made _ (.inl rfl)

theorem emitReply_sends {contract : Contract effects} {params : StandInParams} {key : Key}
    {reply : ResumeCommand}
    (issues : (emitReply options due caller params : Proc Unit Bool).Issues contract
      (sends key reply)) : Emitted options due caller params key reply :=
  emitReply_onlySends.issues issues (fun _ _ came => came) key reply rfl

def recoveredParams (child : ExecutionRecord) (stored : StoredResult) : StandInParams :=
  { child := some child
    status := orElseText stored.status (baseStatus child.status)
    content := if stored.content.truthy then stored.content else .string ""
    replyData := stored.replyData
    extraPayload := stored.extraPayload
    errorCode := LivenessErrorCode.replyLostRecovered
    metadata := stored.metadata }

theorem recoverFinishedChild_sends {child : ExecutionRecord} {stored : StoredResult} {key : Key}
    {reply : ResumeCommand}
    (issues : (recoverFinishedChild options due caller child : Proc Unit SweepOutcome).Issues
      (storesResult due.entry.childMessageId stored) (sends key reply)) :
    Emitted options due caller (recoveredParams child stored) key reply := by
  have uses : (recoverFinishedChild options due caller child : Proc Unit SweepOutcome).Uses
      (onlySends (Emitted options due caller (recoveredParams child stored))
        (storesResult due.entry.childMessageId stored).expected) := by
    unfold recoverFinishedChild loadStoredResult
    simp only [bind_assoc]
    refine uses_redis_bind (onlySends_background _ rfl) fun found shown => ?_
    have same : found = some (.result stored) := shown rfl rfl
    subst same
    simp only [pure_bind]
    exact Task.uses_bind emitReply_onlySends fun _ => Task.uses_pure _
  exact uses.issues issues (fun _ _ came => came) key reply rfl

theorem emitReply_issues {contract : Contract effects} {params : StandInParams}
    {reply : ResumeCommand} {id : String} (fresh : contract.expected .uuid id)
    (routed : (emittedParams options due caller params).callerAgentType ≠ "")
    (built : standInOf (emittedParams options due caller params)
      (orElseText (emittedParams options due caller params).traceId
        (String.ofList (id.toList.filter (· ≠ '-')))) = .ok reply) :
    (emitReply options due caller params : Proc Unit Bool).Issues contract
      (sends (.ctrlStream (emittedParams options due caller params).callerAgentType) reply) := by
  have sent : (do
      let command ← orThrow (Except.ok reply)
      let _ ← redis (.xadd
        (.ctrlStream (emittedParams options due caller params).callerAgentType)
        (.command (.resume command)))
      extendDeadline due
      pure true : Proc Unit Bool).Issues contract
      (sends (.ctrlStream (emittedParams options due caller params).callerAgentType) reply) :=
    ⟨(), .here⟩
  rw [emitReply_routed routed, standInReply_eq, bind_assoc]
  split
  · rename_i blank
    have plain (memory : Unit) : Prog.Yields contract
        (Task.start (plainId : Proc Unit String) memory)
        (.ok (String.ofList (id.toList.filter (· ≠ '-'))), memory) := .call fresh .done
    refine Task.Issues.after plain ?_
    rw [orElseText, if_pos blank] at built
    rw [built]
    exact sent
  · rename_i traced
    rw [orElseText, if_neg traced] at built
    rw [pure_bind, built]
    exact sent

theorem recoverFinishedChild_issues {child : ExecutionRecord} {stored : StoredResult}
    {reply : ResumeCommand} {id : String}
    (routed : (emittedParams options due caller
      (recoveredParams child stored)).callerAgentType ≠ "")
    (built : standInOf (emittedParams options due caller (recoveredParams child stored))
      (orElseText (emittedParams options due caller (recoveredParams child stored)).traceId
        (String.ofList (id.toList.filter (· ≠ '-')))) = .ok reply) :
    (recoverFinishedChild options due caller child : Proc Unit SweepOutcome).Issues
      (storesResult due.entry.childMessageId stored)
      (sends (.ctrlStream (emittedParams options due caller
        (recoveredParams child stored)).callerAgentType) reply) := by
  have shown : (storesResult due.entry.childMessageId stored).expected (.redis (.hget
      (.taskGroupResults (singleCallTaskGroupId due.entry.childMessageId))
      due.entry.childMessageId)) (.ok (some (.result stored))) := fun _ _ => rfl
  have found (memory : Unit) : Prog.Yields (storesResult due.entry.childMessageId stored)
      (Task.start (loadStoredResult due.entry.childMessageId : Proc Unit _) memory)
      (.ok (some stored), memory) := .call shown .done
  have fresh : (storesResult due.entry.childMessageId stored).expected .uuid id := trivial
  exact Task.Issues.after found ((emitReply_issues fresh routed built).bind _)

end

section

variable {workerId status : String} {header : MessageHeader} {agentReturn : AgentReturn}

def answerOf (workerId status : String) (header : MessageHeader) (agentReturn : AgentReturn)
    (messageId : String) : Except JsError ResumeCommand :=
  ResumeCommand.make (callbackHeader header workerId messageId agentReturn.metadata)
    agentReturn.content status agentReturn.replyData agentReturn.extraPayload

def Answers (workerId status : String) (header : MessageHeader) (agentReturn : AgentReturn)
    (reply : ResumeCommand) : Prop :=
  ∃ messageId, (header.parentMessageId = messageId ∨ header.parentMessageId = "") ∧
    answerOf workerId status header agentReturn messageId = .ok reply

theorem enqueueAgentReturn_owed {σ : Type} (owed : header.sourceAgentType ≠ "") :
    (enqueueAgentReturn workerId header status agentReturn : Proc σ PUnit) =
      (if header.parentMessageId = "" then generateMessageId else pure header.parentMessageId) >>=
        fun messageId => (do
          let callback ← orThrow (answerOf workerId status header agentReturn messageId)
          persistSingleCallResult header callback
          xaddWithRetry (.ctrlStream callback.header.targetAgentType) callback
            (maxRetryCount - 1)) :=
  if_neg owed

theorem enqueueAgentReturn_sends {contract : Contract effects} {key : Key}
    {reply : ResumeCommand} (owed : header.sourceAgentType ≠ "")
    (issues : (enqueueAgentReturn workerId header status agentReturn :
      Proc Unit PUnit).Issues contract (sends key reply)) :
    key = .ctrlStream header.sourceAgentType ∧ Answers workerId status header agentReturn reply := by
  let permitted := onlySends (fun key reply => key = .ctrlStream header.sourceAgentType ∧
    Answers workerId status header agentReturn reply) fun _ _ => True
  have persists (callback : ResumeCommand) :
      (persistSingleCallResult header callback : Proc Unit PUnit).Uses permitted := by
    unfold persistSingleCallResult
    split
    · exact Task.uses_pure _
    · refine Task.uses_failSoft (uses_redis_bind (by rintro key reply ⟨⟩) fun _ _ => ?_)
      exact uses_redis_bind (by rintro key reply ⟨⟩) fun _ _ => Task.uses_pure _
  have retries (callback : ResumeCommand) (addressed : callback.header.targetAgentType =
      header.sourceAgentType) (answers : Answers workerId status header agentReturn callback)
      (left : Nat) : (xaddWithRetry (.ctrlStream callback.header.targetAgentType) callback left :
        Proc Unit PUnit).Uses permitted := by
    have sent : permitted.allowed
        (sends (.ctrlStream callback.header.targetAgentType) callback) := by
      rintro key reply same
      cases same
      exact ⟨by rw [addressed], answers⟩
    induction left with
    | zero => exact uses_redis_bind sent fun _ _ => Task.uses_pure _
    | succ left ih =>
        exact Task.uses_tryCatch (uses_redis_bind sent fun _ _ => Task.uses_pure _) fun _ => ih
  have made (messageId : String) (named : header.parentMessageId = messageId ∨
      header.parentMessageId = "") : (do
        let callback ← orThrow (answerOf workerId status header agentReturn messageId)
        persistSingleCallResult header callback
        xaddWithRetry (.ctrlStream callback.header.targetAgentType) callback
          (maxRetryCount - 1) : Proc Unit PUnit).Uses permitted := by
    cases built : answerOf workerId status header agentReturn messageId with
    | error error => exact Task.uses_throw_bind _ _
    | ok callback =>
        simp only [orThrow, pure_bind]
        refine Task.uses_bind (persists callback) fun _ => retries callback ?_ ?_ _
        · rw [ResumeCommand.make_header built]
          rfl
        · exact ⟨messageId, named, built⟩
  have uses : (enqueueAgentReturn workerId header status agentReturn :
      Proc Unit PUnit).Uses permitted := by
    rw [enqueueAgentReturn_owed owed]
    split
    · rename_i blank
      exact Task.uses_bind (uses_of_background (shortId_background _) onlySends_background)
        fun messageId => made messageId (.inr blank)
    · rw [pure_bind]
      exact made _ (.inl rfl)
  exact uses.issues issues (fun _ _ _ => trivial) key reply rfl

theorem enqueueAgentReturn_issues {reply : ResumeCommand} {id : String}
    (owed : header.sourceAgentType ≠ "")
    (built : answerOf workerId status header agentReturn (orElseText header.parentMessageId
      ("msg-" ++ String.ofList (id.toList.take 8))) = .ok reply) :
    (enqueueAgentReturn workerId header status agentReturn : Proc Unit PUnit).Issues anyReply
      (sends (.ctrlStream header.sourceAgentType) reply) := by
  have addressed : reply.header.targetAgentType = header.sourceAgentType := by
    rw [ResumeCommand.make_header built]
    rfl
  have sent : (do
      persistSingleCallResult header reply
      xaddWithRetry (.ctrlStream reply.header.targetAgentType) reply (maxRetryCount - 1) :
      Proc Unit PUnit).Issues anyReply (sends (.ctrlStream header.sourceAgentType) reply) := by
    have persisted (memory : Unit) : Prog.Yields anyReply
        (Task.start (persistSingleCallResult header reply : Proc Unit PUnit) memory)
        (.ok ⟨⟩, memory) := by
      unfold persistSingleCallResult
      split
      · exact .done
      · have failed : anyReply.expected (.redis (.hset (.taskGroupResults
            (singleCallTaskGroupId header.messageId))
            [(header.messageId, .result (resultData reply))])) (.error "") := trivial
        exact .call failed .done
    refine Task.Issues.after persisted ?_
    rw [addressed]
    exact ⟨(), .here⟩
  rw [enqueueAgentReturn_owed owed]
  split
  · rename_i blank
    have fresh : anyReply.expected .uuid id := trivial
    have short (memory : Unit) : Prog.Yields anyReply
        (Task.start (generateMessageId : Proc Unit String) memory)
        (.ok ("msg-" ++ String.ofList (id.toList.take 8)), memory) := .call fresh .done
    refine Task.Issues.after short ?_
    rw [orElseText, if_pos blank] at built
    rw [built]
    exact sent
  · rename_i named
    rw [orElseText, if_neg named] at built
    rw [pure_bind, built]
    exact sent

end

/-! ### Where the two agree -/

theorem WaitingDispatch.Owes.asks {dispatch : WaitingDispatch} {command reply : GatewayCommand}
    (owes : dispatch.Owes command reply) :
    reply.header.asks = dispatch.header.asks ∧
      reply.header.sourceAgentType = dispatch.header.sourceAgentType := by
  have recorded := dispatch.asked
  simp only [ExecutionRecord.asks, MessageHeader.asks, WaitIndexMember.mk.injEq] at recorded
  obtain ⟨_, parent, _, group⟩ := recorded
  have owed := owes.owed
  cases command with
  | resume resume =>
      simp only [resolveReplyCommand] at owed
      split at owed
      · cases owed
      · cases owed
        refine ⟨?_, dispatch.sourced⟩
        simp only [MessageHeader.asks, GatewayCommand.header, originalHeader,
          WaitIndexMember.mk.injEq]
        exact ⟨owes.session, parent, owes.message, group⟩
  | _ =>
      have same := owes.fresh rfl
      simp only [resolveReplyCommand] at owed
      split at owed
      · cases owed
      · cases owed
        rw [same]
        exact ⟨rfl, rfl⟩

/-- The dispatches of which a stand-in says what the callee's reply to `reply` would say. -/
structure AddressedAlike (dispatch : WaitingDispatch) (caller : ExecutionRecord)
    (workerId : String) (reply : MessageHeader) : Prop where
  userCode : reply.userCode = ""
  userName : reply.userName = ""
  parent : dispatch.header.parentMessageId ≠ ""
  traced : reply.traceId ≠ ""
  traceId : orElseText dispatch.record.traceId caller.traceId = reply.traceId
  agentType : dispatch.record.targetAgentType = orElseText reply.targetAgentType workerId

/-- Every reply the sweep may emit for the dispatch is addressed as every reply of the callee. -/
def Interchangeable (options : SweeperOptions) (due : DueEntry) (caller : ExecutionRecord)
    (dispatch : WaitingDispatch) (workerId status : String) (reply : MessageHeader)
    (agentReturn : AgentReturn) : Prop :=
  ∀ params : StandInParams, params.child = some dispatch.record → params.status ≠ "" →
    ∀ key standIn, (emitReply options due caller params : Proc Unit Bool).Issues anyReply
        (sends key standIn) →
      ∀ other real, (enqueueAgentReturn workerId reply status agentReturn :
          Proc Unit PUnit).Issues anyReply (sends other real) →
        SameAddress key other standIn.header real.header

section

variable {options : SweeperOptions} {due : DueEntry} {caller : ExecutionRecord}
  {dispatch : WaitingDispatch} {command reply : GatewayCommand} {workerId status : String}
  {agentReturn : AgentReturn}

theorem interchangeable_of_alike (owes : dispatch.Owes command reply)
    (waiting : due.entry = dispatch.header.asks)
    (alike : AddressedAlike dispatch caller workerId reply.header) :
    Interchangeable options due caller dispatch workerId status reply.header agentReturn := by
  intro params child _ key standIn stands other real sent
  obtain ⟨asks, source⟩ := owes.asks
  simp only [MessageHeader.asks, WaitIndexMember.mk.injEq] at asks waiting
  obtain ⟨session, parent, message, group⟩ := asks
  have owed : reply.header.sourceAgentType ≠ "" := source ▸ dispatch.waits
  obtain ⟨rfl, traceId, named, built⟩ := emitReply_sends stands
  obtain ⟨rfl, messageId, called, answered⟩ := enqueueAgentReturn_sends owed sent
  have agentType : orElseText dispatch.record.sourceAgentType caller.targetAgentType =
      reply.header.sourceAgentType := by
    rw [dispatch.sourced, source, orElseText, if_neg dispatch.waits]
  have numbered : messageId = dispatch.header.parentMessageId := by
    rcases called with same | blank
    · exact same.symm.trans parent
    · exact absurd (parent.symm.trans blank) alike.parent
  have trace : traceId = reply.header.traceId := by
    simp only [emittedParams, child, Option.map_some, Option.getD_some, alike.traceId] at named
    exact (named.resolve_right alike.traced).symm
  rw [ResumeCommand.make_header built, ResumeCommand.make_header answered]
  constructor
  · simp only [emittedParams, child, Option.map_some, Option.getD_some, agentType]
  · simp only [standInHeader, emittedParams, callbackHeader, waiting, numbered]
  · simp only [standInHeader, emittedParams, callbackHeader, waiting, message]
  · simp only [standInHeader, emittedParams, callbackHeader, waiting, session]
  · simp only [standInHeader, callbackHeader, trace]
  · simp only [standInHeader, emittedParams, callbackHeader, waiting, group]
  · simp only [standInHeader, emittedParams, child, Option.map_some, Option.getD_some,
      callbackHeader, alike.agentType]
  · simp only [standInHeader, emittedParams, child, Option.map_some, Option.getD_some, agentType,
      callbackHeader]
  · simp only [standInHeader, emittedParams, callbackHeader, alike.userCode]
  · simp only [standInHeader, emittedParams, callbackHeader, alike.userName]

theorem alike_of_interchangeable (owes : dispatch.Owes command reply)
    (waiting : due.entry = dispatch.header.asks)
    (valid : status ≠ "" ∨ hasContent agentReturn.content = true)
    (same : Interchangeable options due caller dispatch workerId status reply.header agentReturn) :
    AddressedAlike dispatch caller workerId reply.header := by
  obtain ⟨asks, source⟩ := owes.asks
  simp only [MessageHeader.asks, WaitIndexMember.mk.injEq] at asks waiting
  obtain ⟨_, parent, _, _⟩ := asks
  have owed : reply.header.sourceAgentType ≠ "" := source ▸ dispatch.waits
  let params : StandInParams :=
    { child := some dispatch.record
      status := AgentState.failed
      content := .string ""
      replyData := .null
      extraPayload := []
      errorCode := ""
      metadata := [] }
  have routed : (emittedParams options due caller params).callerAgentType ≠ "" := by
    simp only [emittedParams, params, Option.map_some, Option.getD_some, dispatch.sourced]
    rw [orElseText, if_neg dispatch.waits]
    exact dispatch.waits
  have compare (id other : String) : SameAddress
      (.ctrlStream (emittedParams options due caller params).callerAgentType)
      (.ctrlStream reply.header.sourceAgentType)
      (standInHeader (emittedParams options due caller params)
        (orElseText (emittedParams options due caller params).traceId
          (String.ofList (id.toList.filter (· ≠ '-')))))
      (callbackHeader reply.header workerId (orElseText reply.header.parentMessageId
        ("msg-" ++ String.ofList (other.toList.take 8))) agentReturn.metadata) := by
    have failing : params.status ≠ "" := by
      show AgentState.failed ≠ ""
      decide
    have built := @ResumeCommand.make_valid (standInHeader (emittedParams options due caller params)
      (orElseText (emittedParams options due caller params).traceId
        (String.ofList (id.toList.filter (· ≠ '-'))))) params.content params.status
      params.replyData params.extraPayload (.inl failing)
    have answered := @ResumeCommand.make_valid (callbackHeader reply.header workerId
      (orElseText reply.header.parentMessageId ("msg-" ++ String.ofList (other.toList.take 8)))
      agentReturn.metadata) agentReturn.content status agentReturn.replyData
      agentReturn.extraPayload valid
    have fresh : anyReply.expected .uuid id := trivial
    exact same params rfl failing _ _ (emitReply_issues fresh routed built) _ _
      (enqueueAgentReturn_issues owed answered)
  have named : dispatch.header.parentMessageId ≠ "" := by
    intro blank
    have made := (compare "" "").messageId
    simp only [standInHeader, emittedParams, callbackHeader, waiting, parent, blank] at made
    exact absurd made (by decide)
  have traced : (emittedParams options due caller params).traceId ≠ "" := by
    intro blank
    have differ : orElseText (emittedParams options due caller params).traceId
        (String.ofList ("".toList.filter (· ≠ '-'))) =
        orElseText (emittedParams options due caller params).traceId
          (String.ofList ("a".toList.filter (· ≠ '-'))) :=
      (compare "" "").traceId.trans (compare "a" "").traceId.symm
    rw [blank] at differ
    exact absurd differ (by decide)
  have alike := compare "" ""
  have traceId : (emittedParams options due caller params).traceId = reply.header.traceId := by
    have agreed := alike.traceId
    rwa [orElseText, if_neg traced] at agreed
  exact
    { userCode := alike.userCode.symm
      userName := alike.userName.symm
      parent := named
      traced := traceId ▸ traced
      traceId := traceId
      agentType := alike.sourceAgentType }

/-! ### Recovered answers -/

/-- What the sweep writes over the metadata of an answer it recovers. -/
def provenance (options : SweeperOptions) (due : DueEntry) : JsonObject :=
  [("sweeper_worker_id", .string options.workerId),
    ("synthesized_by", .string synthesizedBySweeper),
    ("liveness_error_code", .string LivenessErrorCode.replyLostRecovered),
    ("child_message_id", .string due.entry.childMessageId)]

theorem lookup_provenance (options : SweeperOptions) (due : DueEntry) (name : String) :
    (provenance options due).lookup name =
      if name = "sweeper_worker_id" then some (.string options.workerId)
      else if name = "synthesized_by" then some (.string synthesizedBySweeper)
      else if name = "liveness_error_code" then
        some (.string LivenessErrorCode.replyLostRecovered)
      else if name = "child_message_id" then some (.string due.entry.childMessageId)
      else none := by
  simp only [provenance, Redis.lookup_cons_if, List.lookup_nil]

theorem lookup_recovered (child : ExecutionRecord) (stored : StoredResult) (traceId name : String) :
    (standInHeader (emittedParams options due caller (recoveredParams child stored))
      traceId).metadata.lookup name =
      ((provenance options due).lookup name).or (stored.metadata.lookup name) := by
  rw [lookup_provenance]
  simp only [standInHeader, emittedParams, recoveredParams, spread, Redis.upsertAll,
    List.foldl_cons, List.foldl_nil, Redis.lookup_upsert]
  split_ifs <;> simp_all

theorem lookup_provenance_ne_none (options : SweeperOptions) (due : DueEntry) (name : String) :
    (provenance options due).lookup name ≠ none → name ∈ provenanceKeys := by
  rw [lookup_provenance]
  simp only [provenanceKeys, List.mem_cons, List.not_mem_nil, or_false]
  split_ifs <;> simp_all

/-- Whatever reply the callee stored, the stand-in made of it says the same. -/
def RecoversAnswer (options : SweeperOptions) (due : DueEntry) (caller : ExecutionRecord)
    (dispatch : WaitingDispatch) (workerId status : String) (reply : MessageHeader)
    (agentReturn : AgentReturn) : Prop :=
  ∀ other real, (enqueueAgentReturn workerId reply status agentReturn :
      Proc Unit PUnit).Issues anyReply (sends other real) →
    ∀ key standIn, (recoverFinishedChild options due caller dispatch.record :
        Proc Unit SweepOutcome).Issues
          (storesResult due.entry.childMessageId (resultData real)) (sends key standIn) →
      SameAnswer standIn real

structure Recoverable (options : SweeperOptions) (due : DueEntry) (childStatus status : String)
    (content : JsonValue) (metadata : JsonObject) : Prop where
  status : orElseText status childStatus = status
  content : content.truthy = true ∨ content = .string ""
  metadata : ∀ name value stamp, metadata.lookup name = some value →
    (provenance options due).lookup name = some stamp → value = stamp

theorem recoversAnswer_of_recoverable (owed : reply.header.sourceAgentType ≠ "")
    (recoverable : Recoverable options due (baseStatus dispatch.record.status) status
      agentReturn.content (spread reply.header.metadata agentReturn.metadata)) :
    RecoversAnswer options due caller dispatch workerId status reply.header agentReturn := by
  intro other real sent key standIn stands
  obtain ⟨_, messageId, _, answered⟩ := enqueueAgentReturn_sends owed sent
  obtain ⟨_, traceId, _, built⟩ := recoverFinishedChild_sends stands
  have header := ResumeCommand.make_header answered
  have header' := ResumeCommand.make_header built
  obtain ⟨content, state, replyData, extraPayload⟩ := ResumeCommand.make_fields answered
  obtain ⟨content', state', replyData', extraPayload'⟩ := ResumeCommand.make_fields built
  have known : real.header.metadata = spread reply.header.metadata agentReturn.metadata := by
    rw [header]
    rfl
  constructor
  · rw [state', state]
    exact (congrArg (fun text => orElseText text (baseStatus dispatch.record.status)) state).trans
      recoverable.status
  · rw [content']
    show (if real.content.truthy then real.content else .string "") = real.content
    rw [content]
    split
    · rfl
    · rename_i falsy
      exact (recoverable.content.resolve_left falsy).symm
  · exact replyData'
  · exact extraPayload'
  · intro name value found
    rw [header', lookup_recovered]
    cases stamped : (provenance options due).lookup name with
    | none => exact found
    | some stamp =>
        rw [known] at found
        rw [recoverable.metadata name value stamp found stamped]
        rfl
  · intro name present
    rw [header', lookup_recovered] at present
    cases stamped : (provenance options due).lookup name with
    | none =>
        rw [stamped] at present
        exact .inl present
    | some stamp => exact .inr (lookup_provenance_ne_none options due name (by simp [stamped]))

theorem recoverable_of_recoversAnswer (owes : dispatch.Owes command reply)
    (valid : status ≠ "" ∨ hasContent agentReturn.content = true)
    (terminal : isTerminalState (baseStatus dispatch.record.status) = true)
    (recovers : RecoversAnswer options due caller dispatch workerId status reply.header
      agentReturn) :
    Recoverable options due (baseStatus dispatch.record.status) status agentReturn.content
      (spread reply.header.metadata agentReturn.metadata) := by
  obtain ⟨_, source⟩ := owes.asks
  have owed : reply.header.sourceAgentType ≠ "" := source ▸ dispatch.waits
  have finished : baseStatus dispatch.record.status ≠ "" := by
    intro empty
    rw [empty] at terminal
    exact absurd terminal (by decide)
  obtain ⟨real, answered⟩ : ∃ real, answerOf workerId status reply.header agentReturn
      (orElseText reply.header.parentMessageId ("msg-" ++ String.ofList ("".toList.take 8))) =
        .ok real := ⟨_, ResumeCommand.make_valid valid⟩
  have header := ResumeCommand.make_header answered
  obtain ⟨content, state, _, _⟩ := ResumeCommand.make_fields answered
  let params := emittedParams options due caller (recoveredParams dispatch.record (resultData real))
  have named : params.status ≠ "" := by
    show orElseText real.status (baseStatus dispatch.record.status) ≠ ""
    unfold orElseText
    split
    · exact finished
    · assumption
  have routed : params.callerAgentType ≠ "" := by
    show orElseText dispatch.record.sourceAgentType caller.targetAgentType ≠ ""
    rw [dispatch.sourced, orElseText, if_neg dispatch.waits]
    exact dispatch.waits
  obtain ⟨standIn, built⟩ : ∃ standIn, standInOf params (orElseText params.traceId
      (String.ofList ("".toList.filter (· ≠ '-')))) = .ok standIn :=
    ⟨_, ResumeCommand.make_valid (.inl named)⟩
  have header' := ResumeCommand.make_header built
  obtain ⟨content', state', _, _⟩ := ResumeCommand.make_fields built
  have same := recovers _ real (enqueueAgentReturn_issues owed answered) _ standIn
    (recoverFinishedChild_issues routed built)
  constructor
  · have handed := state'.symm.trans same.status
    rw [state] at handed
    exact state ▸ handed
  · have handed : (if real.content.truthy then real.content else .string "") = real.content :=
      content'.symm.trans same.content
    rw [content] at handed
    split at handed
    · rename_i truthy
      exact .inl truthy
    · exact .inr handed.symm
  · intro name value stamp found stamped
    have known : real.header.metadata.lookup name = some value := by
      rw [header]
      exact found
    have kept := same.kept name value known
    rw [header', lookup_recovered, stamped] at kept
    exact (Option.some.inj kept).symm

/-- A stand-in is the callee's reply, field for field, for exactly the dispatches of which
`AddressedAlike` and, where an answer is recovered, `Recoverable` hold. -/
theorem stand_in_faithful_iff (owes : dispatch.Owes command reply)
    (waiting : due.entry = dispatch.header.asks)
    (valid : status ≠ "" ∨ hasContent agentReturn.content = true) :
    (Interchangeable options due caller dispatch workerId status reply.header agentReturn ∧
        (isTerminalState (baseStatus dispatch.record.status) = true →
          RecoversAnswer options due caller dispatch workerId status reply.header agentReturn)) ↔
      AddressedAlike dispatch caller workerId reply.header ∧
        (isTerminalState (baseStatus dispatch.record.status) = true →
          Recoverable options due (baseStatus dispatch.record.status) status agentReturn.content
            (spread reply.header.metadata agentReturn.metadata)) := by
  obtain ⟨_, source⟩ := owes.asks
  have owed : reply.header.sourceAgentType ≠ "" := source ▸ dispatch.waits
  constructor
  · rintro ⟨same, recovers⟩
    exact ⟨alike_of_interchangeable owes waiting valid same, fun terminal =>
      recoverable_of_recoversAnswer owes valid terminal (recovers terminal)⟩
  · rintro ⟨alike, recoverable⟩
    exact ⟨interchangeable_of_alike owes waiting alike, fun terminal =>
      recoversAnswer_of_recoverable owed (recoverable terminal)⟩

end

/-- The dispatch that `answeredStore` records, on behalf of a user. -/
def identifiedDispatch : WaitingDispatch where
  header := { answeredDispatch "" with userCode := "u1", userName := "User" }
  record :=
    { buildExecutionRecord (answeredDispatch "") (.ctrlStream "callee") "exec-child" "" with
      workerId := "worker"
      status := AgentState.completed }
  waits := by decide
  asked := by decide
  sourced := by decide

def identifiedCommand : GatewayCommand :=
  .askAgent
    { header := identifiedDispatch.header
      content := .string "question"
      nonEmpty := by decide }

def identifiedAnswer : AgentReturn := { replyData := .null, content := .string "answer" }

theorem identifiedDispatch_owes : identifiedDispatch.Owes identifiedCommand identifiedCommand where
  owed := by decide
  fresh _ := rfl
  message := rfl
  session := rfl

def identifiedCaller : ExecutionRecord :=
  { executionId := "exec-caller"
    messageId := "msg-caller"
    sessionId := "session"
    targetAgentType := "caller"
    status := AgentState.waitingAgent }

def standInSweeper : SweeperOptions := { workerId := "sweeper", enabled := true, searchFuel := 4 }

theorem stand_in_faithful_for_identified :
    (Interchangeable standInSweeper (answeredDue "") identifiedCaller identifiedDispatch "worker"
          AgentState.completed identifiedCommand.header identifiedAnswer ∧
        (isTerminalState (baseStatus identifiedDispatch.record.status) = true →
          RecoversAnswer standInSweeper (answeredDue "") identifiedCaller identifiedDispatch
            "worker" AgentState.completed identifiedCommand.header identifiedAnswer)) ↔
      AddressedAlike identifiedDispatch identifiedCaller "worker" identifiedCommand.header ∧
        (isTerminalState (baseStatus identifiedDispatch.record.status) = true →
          Recoverable standInSweeper (answeredDue "") (baseStatus identifiedDispatch.record.status)
            AgentState.completed identifiedAnswer.content
            (spread identifiedCommand.header.metadata identifiedAnswer.metadata)) :=
  stand_in_faithful_iff identifiedDispatch_owes rfl (.inl (by decide))

/-- Who the replies on the caller's control stream name as its user. -/
def usersHeard (store : RedisStore) : List (String × String × JsonValue) :=
  (store.stream (.ctrlStream "caller")).entries.filterMap fun entry => match entry with
    | .command (.resume reply) =>
        some (reply.header.userCode, reply.header.userName, reply.content)
    | _ => none

def identifiedReply (store : RedisStore) : RedisStore :=
  (Prog.run redisAnswer ((enqueueAgentReturn "worker" identifiedDispatch.header
    AgentState.completed identifiedAnswer : Proc Unit PUnit).start ()) store).2

def identifiedSweep (store : RedisStore) : RedisStore :=
  (Prog.run redisAnswer ((recoverFinishedChild standInSweeper (answeredDue "") identifiedCaller
    identifiedDispatch.record : Proc Unit SweepOutcome).start ()) store).2

/-- The callee's reply names the user; the stand-in that recovers the same answer names none. -/
theorem stand_in_drops_user :
    usersHeard (identifiedSweep (identifiedReply Redis.Store.empty)) =
      [("u1", "User", .string "answer"), ("", "", .string "answer")] := by
  decide +kernel

end ByFramework
