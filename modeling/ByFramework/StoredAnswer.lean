import ByFramework.Redis.Store
import ByFramework.SweepEntry
import ByFramework.WorkerCore

/-!
A callee that produced its result and died: which record of it lets the sweep hand that result to
the caller, and which one makes the sweep report a failure instead.
-/

namespace ByFramework

open Async

/-- A due wait, the registry of its session, and what the callee's own reply says. -/
structure SweptCall where
  due : DueEntry
  fields : String → Option Value
  result : StoredResult

namespace SweptCall

variable (call : SweptCall)

/-- The result that is stored under the call; a group member's is not. -/
def stored : Option Value :=
  if call.due.entry.taskGroupId = "" then some (.result call.result) else none

def Shows : (op : Op) → op.Reply → Prop
  | .redis (.hget key field), .ok found =>
      (key = .sessionRegistry call.due.entry.sessionId → found = call.fields field) ∧
        (key = .taskGroupResults (singleCallTaskGroupId call.due.entry.childMessageId) →
          field = call.due.entry.childMessageId → found = call.stored)
  | _, _ => True

def Says (status : String) (content replyData : JsonValue) (extraPayload : JsonObject) : Prop :=
  status = call.result.status ∧ content = call.result.content ∧
    replyData = call.result.replyData ∧ extraPayload = call.result.extraPayload

def Carries (reply : ResumeCommand) : Prop :=
  call.Says reply.status reply.content reply.replyData reply.extraPayload

def carrying : Contract effects where
  allowed
    | .redis (.xadd _ (.command (.resume reply))) => call.Carries reply
    | _ => True
  expected := call.Shows

end SweptCall

/-- What `getExecutionByMessageId` makes of the fields of a session's registry. -/
def readExecution (fields : String → Option Value) (messageId sessionId : String) :
    Except JsError (Option ExecutionRecord) :=
  let executionId := ((fields (msgMapField messageId)).map Value.asText).getD ""
  if sessionId = "" ∨ executionId = "" then .ok none
  else match fields (execField executionId) with
    | some (.execution record) => .ok (some record)
    | none | some (.text "") => .ok none
    | some _ => .error (syntaxError "Unexpected token in JSON")

section

variable {σ β : Type} [Nonempty σ] {contract : Contract effects} {fields : String → Option Value}
  {messageId sessionId : String}

theorem getExecutionByMessageId_bind_iff
    (allowed : ∀ field, contract.allowed (.redis (.hget (.sessionRegistry sessionId) field)))
    (shown : ∀ field found,
      contract.expected (.redis (.hget (.sessionRegistry sessionId) field)) (.ok found) ↔
        found = fields field)
    (next : Option ExecutionRecord → Proc σ β) :
    (getExecutionByMessageId messageId sessionId >>= next).Uses contract ↔
      ∀ found, readExecution fields messageId sessionId = .ok found → (next found).Uses contract := by
  unfold getExecutionByMessageId readExecution
  by_cases blank : sessionId = ""
  · simp [blank]
  · simp only [blank, ↓reduceIte, false_or, bind_assoc]
    rw [uses_redis_bind_iff]
    simp only [allowed, shown, true_and, forall_eq]
    split
    · simp
    · rename_i mapped
      simp only [getExecution, blank, ↓reduceIte, bind_assoc]
      rw [uses_redis_bind_iff]
      simp only [allowed, shown, true_and, forall_eq]
      generalize fields (execField _) = held
      have fails : (throw (syntaxError "Unexpected token in JSON") :
          Proc σ β).Uses contract := Task.uses_throw _
      rcases held with _ | value
      · simp
      · cases value with
        | execution record => simp
        | text value =>
            by_cases empty : value = ""
            · subst empty
              simp
            · simp [empty, fails]
        | _ => simp [fails]

end

/-! ### What each branch sends -/

section

variable {σ β : Type} {call : SweptCall} {options : SweeperOptions}

theorem carrying_background (op : Op) (quiet : op.isBackground = true) :
    call.carrying.allowed op := by
  unfold SweptCall.carrying
  dsimp only
  split
  · simp [Op.isBackground, backgroundCommand] at quiet
  · trivial

theorem carrying_of_background {α : Type} {task : Proc σ α} (uses : task.Uses background) :
    task.Uses call.carrying :=
  uses_of_background uses carrying_background

theorem extendDeadline_carries (due : DueEntry) :
    (extendDeadline due : Proc σ PUnit).Uses call.carrying := by
  refine Task.uses_bind (Task.uses_failSoft (uses_redis_bind trivial
    fun _ _ => Task.uses_pure _)) fun _ => ?_
  refine Task.uses_bind (carrying_of_background dateNow_background) fun now => ?_
  exact uses_redis_bind trivial fun _ _ => Task.uses_pure _

variable [Nonempty σ]

theorem standInReply_bind_iff {params : StandInReplyParams} (named : params.status ≠ "")
    {next : ResumeCommand → Proc σ β} {holds : Prop}
    (same : ∀ reply : ResumeCommand, reply.status = params.status →
      reply.content = params.content → reply.replyData = params.replyData →
      reply.extraPayload = params.extraPayload → ((next reply).Uses call.carrying ↔ holds)) :
    (standInReply params >>= next).Uses call.carrying ↔ holds := by
  have made (traceId : String) : (do
      let reply ← orThrow (ResumeCommand.make (standInHeader params traceId) params.content
        params.status params.replyData params.extraPayload)
      next reply : Proc σ β).Uses call.carrying ↔ holds := by
    have valid : params.status ≠ "" ∨ hasContent params.content = true := .inl named
    rw [ResumeCommand.make, dif_pos valid]
    exact same _ rfl rfl rfl rfl
  unfold standInReply
  rw [bind_assoc]
  split
  · rw [plainId, uuidv4, await, bind_assoc, Task.uses_await_bind_iff]
    simp only [pure_bind, made]
    exact ⟨fun uses => uses.2 "" trivial, fun holds => ⟨trivial, fun _ _ => holds⟩⟩
  · rw [pure_bind]
    exact made _

theorem emitReply_carries_iff {caller : ExecutionRecord} {params : StandInParams}
    (named : params.status ≠ "") :
    (emitReply options call.due caller params : Proc σ Bool).Uses call.carrying ↔
      orElseText ((params.child.map ExecutionRecord.sourceAgentType).getD "")
        caller.targetAgentType = "" ∨
      call.Says params.status params.content params.replyData params.extraPayload := by
  unfold emitReply
  dsimp only
  split
  · rename_i unroutable
    simp only [unroutable, true_or, iff_true]
    exact Task.uses_bind (extendDeadline_carries _) fun _ => Task.uses_pure _
  · rename_i routed
    simp only [routed, false_or]
    refine standInReply_bind_iff named fun reply status content replyData extraPayload => ?_
    have rest : (do
        extendDeadline call.due
        pure true : Proc σ Bool).Uses call.carrying :=
      Task.uses_bind (extendDeadline_carries _) fun _ => Task.uses_pure _
    rw [uses_redis_bind_iff]
    constructor
    · rintro ⟨carries, _⟩
      have told : call.Carries reply := carries
      rwa [SweptCall.Carries, status, content, replyData, extraPayload] at told
    · intro told
      refine ⟨?_, fun _ _ => rest⟩
      have carries : call.Carries reply := by
        rwa [SweptCall.Carries, status, content, replyData, extraPayload]
      exact carries

theorem synthesizeFailure_carries_iff {caller : ExecutionRecord} {child : Option ExecutionRecord}
    {errorCode message status : String} {outcome : SweepOutcome} :
    (synthesizeFailure options call.due caller child errorCode message status outcome :
      Proc σ _).Uses call.carrying ↔
      orElseText ((child.map ExecutionRecord.sourceAgentType).getD "")
        caller.targetAgentType = "" ∨
      call.Says (orElseText status AgentState.failed) (.string "")
        (failureReplyData message errorCode call.due.entry.childMessageId) [] := by
  have named : orElseText status AgentState.failed ≠ "" := by
    unfold orElseText
    split
    · decide
    · assumption
  unfold synthesizeFailure
  rw [Task.uses_bind_iff fun _ => Task.uses_pure _]
  exact emitReply_carries_iff named

def HandedOn (result : StoredResult) (childStatus : String) : Prop :=
  orElseText result.status childStatus = result.status ∧
    (result.content.truthy = true ∨ result.content = .string "")

def SweptCall.Fails (call : SweptCall) (status message errorCode : String) : Prop :=
  call.Says status (.string "")
    (failureReplyData message errorCode call.due.entry.childMessageId) []

def lostResultMessage (childMessageId childStatus : String) : String :=
  "Sub-task " ++ childMessageId ++ " finished with " ++ childStatus ++
    " but neither its reply nor its stored result is available"

def lostResultStatus (childStatus : String) : String :=
  if childStatus ∈ [AgentState.failed, AgentState.cancelled] then childStatus
  else AgentState.failed

theorem recoverFinishedChild_carries_iff {caller child : ExecutionRecord}
    (terminal : isTerminalState (baseStatus child.status) = true) :
    (recoverFinishedChild options call.due caller child : Proc σ _).Uses call.carrying ↔
      orElseText child.sourceAgentType caller.targetAgentType = "" ∨
      if call.due.entry.taskGroupId = "" then HandedOn call.result (baseStatus child.status)
      else call.Fails (lostResultStatus (baseStatus child.status))
        (lostResultMessage call.due.entry.childMessageId (baseStatus child.status))
        LivenessErrorCode.replyLostRecovered := by
  have finished : baseStatus child.status ≠ "" := by
    intro empty
    rw [empty] at terminal
    exact absurd terminal (by decide)
  unfold recoverFinishedChild loadStoredResult
  simp only [bind_assoc]
  rw [uses_redis_bind_iff]
  have shown (found : Option Value) : call.carrying.expected (.redis (.hget
      (.taskGroupResults (singleCallTaskGroupId call.due.entry.childMessageId))
      call.due.entry.childMessageId)) (.ok found) ↔ found = call.stored := by
    simp [SweptCall.carrying, SweptCall.Shows]
  simp only [shown, forall_eq, SweptCall.stored]
  have issued : call.carrying.allowed (.redis (.hget
      (.taskGroupResults (singleCallTaskGroupId call.due.entry.childMessageId))
      call.due.entry.childMessageId)) := trivial
  simp only [issued, true_and]
  by_cases single : call.due.entry.taskGroupId = ""
  · simp only [single, ↓reduceIte, pure_bind]
    have named : orElseText call.result.status (baseStatus child.status) ≠ "" := by
      unfold orElseText
      split
      · exact finished
      · assumption
    rw [Task.uses_bind_iff fun _ => Task.uses_pure _, emitReply_carries_iff named]
    refine or_congr Iff.rfl ?_
    simp only [SweptCall.Says, and_true, HandedOn]
    refine and_congr Iff.rfl ?_
    split
    · rename_i truthy
      simp [truthy]
    · rename_i falsy
      simp [falsy, eq_comm]
  · simp only [single, ↓reduceIte, pure_bind]
    have named : lostResultStatus (baseStatus child.status) ≠ "" := by
      unfold lostResultStatus
      split
      · exact finished
      · decide
    refine synthesizeFailure_carries_iff.trans (or_congr Iff.rfl ?_)
    change call.Says (orElseText (lostResultStatus (baseStatus child.status)) _) _ _ _ ↔ _
    rw [orElseText, if_neg named]
    rfl

def neverRecordedMessage (childMessageId : String) : String :=
  "No execution was ever recorded for sub-task " ++ childMessageId

def neverPickedUpMessage (childMessageId childStatus : String) : String :=
  "Sub-task " ++ childMessageId ++ " was never picked up by a worker (status=" ++ childStatus ++ ")"

/-- The record of the callee by which the sweep leaves its answer alone or hands it on. -/
def SweptCall.Keeps (call : SweptCall) : Option ExecutionRecord → Prop
  | none => call.Fails AgentState.failed
      (neverRecordedMessage call.due.entry.childMessageId) LivenessErrorCode.childNeverStarted
  | some child =>
      let childStatus := baseStatus child.status
      if isTerminalState childStatus then
        if call.due.entry.taskGroupId = "" then HandedOn call.result childStatus
        else call.Fails (lostResultStatus childStatus)
          (lostResultMessage call.due.entry.childMessageId childStatus)
          LivenessErrorCode.replyLostRecovered
      else if isSuspendedState childStatus then True
      else child.workerId = "" ∧ call.Fails AgentState.failed
        (neverPickedUpMessage call.due.entry.childMessageId childStatus)
        LivenessErrorCode.childNeverStarted

omit [Nonempty σ] in
theorem cancelTimedOutChild_carries (child : ExecutionRecord) :
    (cancelTimedOutChild options call.due child : Proc σ Bool).Uses call.carrying := by
  unfold cancelTimedOutChild
  split
  · exact Task.uses_pure _
  · have cancelled (params : CancelTaskParams) :
        (cancelTask options.searchFuel params : Proc σ _).Uses call.carrying :=
      cancelTask_uses carrying_background (fun _ _ => trivial) _ _
    exact Task.uses_tryCatch (Task.uses_bind (cancelled _) fun _ => Task.uses_pure _)
      fun _ => Task.uses_pure _

theorem isWorkerOnline_bind_iff (workerId : String) (next : Bool → Proc σ β) :
    (isWorkerOnline workerId >>= next).Uses call.carrying ↔
      (next true).Uses call.carrying ∧ (next false).Uses call.carrying := by
  constructor
  · intro uses
    simp only [isWorkerOnline, bind_assoc] at uses
    rw [uses_redis_bind_iff] at uses
    have legacy := uses.2 (some (.text "token")) trivial
    have missing := uses.2 none trivial
    simp only [decodeWorkerPresence, pure_bind] at legacy missing
    exact ⟨legacy, missing⟩
  · rintro ⟨online, offline⟩
    refine Task.uses_bind (carrying_of_background (isWorkerOnline_background workerId)) ?_
    intro found
    cases found with
    | true => exact online
    | false => exact offline

theorem renewalCeiling_bind_iff (child : ExecutionRecord) {soon late : Proc σ β}
    (quiet : soon.Uses call.carrying) :
    (do
      let limitMs ← renewalCeilingMs options call.due child
      if (← dateNow) < limitMs then soon else late : Proc σ β).Uses call.carrying ↔
      late.Uses call.carrying := by
  constructor
  · intro uses
    have unread : call.carrying.expected (.redis (.get (.waitRenewOrigin
        call.due.entry.sessionId (memberDigest call.due.member)))) (.ok none) := trivial
    have ceiling : ∃ limitMs, ∀ memory : σ, Prog.Yields call.carrying
        (Task.start (renewalCeilingMs options call.due child) memory) (.ok limitMs, memory) :=
      ⟨_, fun _ => .call unread .done⟩
    obtain ⟨limitMs, reached⟩ := ceiling
    have checked := Task.Uses.after uses reached
    rw [dateNow, await, Task.uses_await_bind_iff] at checked
    have passed := checked.2 limitMs trivial
    rwa [if_neg (lt_irrefl limitMs)] at passed
  · intro uses
    refine Task.uses_bind (carrying_of_background (renewalCeilingMs_background _ _ _))
      fun limitMs => ?_
    refine Task.uses_bind (carrying_of_background dateNow_background) fun now => ?_
    split
    · exact quiet
    · exact uses

theorem shown_registry (field : String) (found : Option Value) :
    call.carrying.expected (.redis (.hget (.sessionRegistry call.due.entry.sessionId) field))
      (.ok found) ↔ found = call.fields field := by
  simp [SweptCall.carrying, SweptCall.Shows]

theorem not_lost_and_late {lost late : String}
    (gone : call.Fails AgentState.failed lost LivenessErrorCode.childWorkerLost)
    (slow : call.Fails AgentState.failed late LivenessErrorCode.childTimeout) : False := by
  have same := gone.2.2.1.trans slow.2.2.1.symm
  simp [failureReplyData, LivenessErrorCode.childWorkerLost, LivenessErrorCode.childTimeout] at same

theorem triageChild_carries_iff {caller : ExecutionRecord} :
    (triageChild options call.due caller : Proc σ _).Uses call.carrying ↔
      ∀ child, readExecution call.fields call.due.entry.childMessageId
          call.due.entry.sessionId = .ok child →
        orElseText ((child.map ExecutionRecord.sourceAgentType).getD "")
          caller.targetAgentType = "" ∨ call.Keeps child := by
  unfold triageChild
  dsimp only
  rw [getExecutionByMessageId_bind_iff (fun _ => trivial) shown_registry]
  refine forall_congr' fun found => imp_congr_right fun _ => ?_
  cases found with
  | none => exact synthesizeFailure_carries_iff
  | some child =>
      dsimp only [SweptCall.Keeps]
      by_cases terminal : isTerminalState (baseStatus child.status) = true
      · simp only [terminal, ↓reduceIte]
        exact recoverFinishedChild_carries_iff terminal
      simp only [terminal, ↓reduceIte, Bool.false_eq_true]
      by_cases suspended : isSuspendedState (baseStatus child.status) = true
      · simp only [suspended, ↓reduceIte, or_true, iff_true]
        exact Task.uses_bind (extendDeadline_carries _) fun _ => Task.uses_pure _
      simp only [suspended, ↓reduceIte, Bool.false_eq_true]
      by_cases unstarted : child.workerId = ""
      · simp only [unstarted, ↓reduceIte, true_and]
        exact synthesizeFailure_carries_iff
      simp only [unstarted, ↓reduceIte, false_and, or_false]
      have soon : (do
          extendDeadline call.due
          pure .childAlive : Proc σ SweepOutcome).Uses call.carrying :=
        Task.uses_bind (extendDeadline_carries _) fun _ => Task.uses_pure _
      rw [isWorkerOnline_bind_iff]
      simp only [↓reduceIte, Bool.false_eq_true]
      rw [renewalCeiling_bind_iff child soon, Task.uses_bind_iff fun _ =>
        Task.uses_bind (cancelTimedOutChild_carries child) fun _ => Task.uses_pure _,
        synthesizeFailure_carries_iff, synthesizeFailure_carries_iff]
      constructor
      · rintro ⟨unroutable | slow, gone⟩
        · exact unroutable
        · rcases gone with unroutable | gone
          · exact unroutable
          · exact (not_lost_and_late gone slow).elim
      · exact fun unroutable => ⟨.inl unroutable, .inl unroutable⟩

omit [Nonempty σ] in
theorem dropEntry_carries (outcome : SweepOutcome) :
    (dropEntry call.due outcome : Proc σ _).Uses call.carrying :=
  uses_redis_bind trivial fun _ _ => Task.uses_pure _

theorem groupBlocks_bind_iff (grouped : call.due.entry.taskGroupId ≠ "")
    {next : Option SweepOutcome → Proc σ β} (blocked : ∀ outcome,
      (next (some outcome)).Uses call.carrying) :
    (groupBlocksCompensation call.due >>= next).Uses call.carrying ↔
      (next none).Uses call.carrying := by
  constructor
  · intro uses
    simp only [groupBlocksCompensation, bind_assoc] at uses
    rw [uses_redis_bind_iff] at uses
    have total : call.carrying.expected (.redis (.hget (.taskGroup call.due.entry.taskGroupId)
        taskGroupFieldTotal)) (.ok (some (.text "2"))) := by
      simp [SweptCall.carrying, SweptCall.Shows]
    have open_ := uses.2 _ total
    simp only [Option.isNone_some, Bool.false_eq_true, ↓reduceIte, bind_assoc] at open_
    rw [uses_redis_bind_iff] at open_
    have aborted : call.carrying.expected (.redis (.hget (.taskGroup call.due.entry.taskGroupId)
        taskGroupFieldAborted)) (.ok none) := by
      simp [SweptCall.carrying, SweptCall.Shows]
    have going := open_.2 _ aborted
    simp only [Option.any_none, Bool.false_eq_true, ↓reduceIte, bind_assoc] at going
    rw [uses_redis_bind_iff] at going
    have recorded : call.carrying.expected (.redis (.hget
        (.taskGroupResults call.due.entry.taskGroupId) call.due.entry.childMessageId))
        (.ok none) := by
      simp [SweptCall.carrying, SweptCall.Shows, SweptCall.stored, grouped]
    have unheard := going.2 _ recorded
    simpa only [Option.isSome_none, Bool.false_eq_true, ↓reduceIte, pure_bind] using unheard
  · intro uses
    have goes : ∀ found, (next found).Uses call.carrying := by
      intro found
      cases found with
      | none => exact uses
      | some outcome => exact blocked outcome
    refine Task.uses_bind ?_ goes
    refine uses_redis_bind trivial fun total _ => ?_
    split
    · exact Task.uses_bind (dropEntry_carries _) fun _ => Task.uses_pure _
    · refine uses_redis_bind trivial fun aborted _ => ?_
      split
      · exact Task.uses_bind (dropEntry_carries _) fun _ => Task.uses_pure _
      · refine uses_redis_bind trivial fun recorded _ => ?_
        split
        · exact Task.uses_bind (dropEntry_carries _) fun _ => Task.uses_pure _
        · exact Task.uses_pure _

omit [Nonempty σ] in
theorem resolveUnsuspendedCaller_carries (caller : ExecutionRecord) :
    (resolveUnsuspendedCaller call.due caller : Proc σ _).Uses call.carrying := by
  have decides : ∀ lost : Bool, (if lost then dropEntry call.due .callerLost else do
      extendDeadline call.due
      pure .callerNotSuspended : Proc σ _).Uses call.carrying := by
    intro lost
    split
    · exact dropEntry_carries _
    · exact Task.uses_bind (extendDeadline_carries _) fun _ => Task.uses_pure _
  unfold resolveUnsuspendedCaller
  split
  · exact Task.uses_bind (Task.uses_pure _) decides
  · refine Task.uses_bind (carrying_of_background (isWorkerOnline_background _)) fun online => ?_
    exact Task.uses_bind (Task.uses_pure _) decides

end

attribute [local irreducible] Task.Uses in
/-- Every reply that the triage of a due wait sends carries the callee's own answer exactly when
the callee's record is finished outside a group, or nothing is sent. -/
theorem stored_answer_kept_iff (options : SweeperOptions) (call : SweptCall) :
    (resolveDecoded options call.due : Proc Unit SweepOutcome).Uses call.carrying ↔
      ∀ caller, readExecution call.fields call.due.entry.parentMessageId
          call.due.entry.sessionId = .ok (some caller) →
        isSuspendedState (baseStatus caller.status) = true →
        call.due.entry.childMessageId ≠ "" →
        ∀ child, readExecution call.fields call.due.entry.childMessageId
            call.due.entry.sessionId = .ok child →
          orElseText ((child.map ExecutionRecord.sourceAgentType).getD "")
            caller.targetAgentType = "" ∨ call.Keeps child := by
  unfold resolveDecoded
  rw [getExecutionByMessageId_bind_iff (fun _ => trivial) shown_registry]
  constructor
  · intro uses caller read suspended asked
    have entry := uses (some caller) read
    have unfinished : isTerminalState (baseStatus caller.status) = false := by
      by_contra terminal
      rw [Bool.not_eq_false] at terminal
      rw [not_suspended_of_terminal terminal] at suspended
      cases suspended
    simp only [unfinished, suspended, asked, Bool.false_eq_true, Bool.not_true, ↓reduceIte] at entry
    refine (@triageChild_carries_iff Unit call options _ caller).mp ?_
    split at entry
    · exact entry
    · rename_i grouped
      rw [groupBlocks_bind_iff grouped fun outcome => Task.uses_pure outcome] at entry
      exact entry
  · intro keeps found read
    cases found with
    | none => exact dropEntry_carries _
    | some caller =>
        dsimp only
        split
        · exact dropEntry_carries _
        split
        · exact resolveUnsuspendedCaller_carries caller
        split
        · exact Task.uses_pure _
        · rename_i unfinished suspended asked
          have triage := (@triageChild_carries_iff Unit call options _ caller).mpr
            (keeps caller read (by simpa using suspended) asked)
          split
          · exact triage
          · rename_i grouped
            exact (groupBlocks_bind_iff grouped fun outcome => Task.uses_pure outcome).mpr triage

/-! ### A worker that dies with its result in hand -/

/-- The reply of a finished callee, outside any group or as a member of one. -/
def answeredReply (taskGroupId : String) : ResumeCommand :=
  { header :=
      { messageId := "msg-caller"
        sessionId := "session"
        traceId := "trace"
        sourceAgentType := "callee"
        targetAgentType := "caller"
        parentMessageId := "msg-child"
        taskGroupId := taskGroupId }
    content := .string "answer"
    status := AgentState.completed
    nonEmpty := by decide }

def answeredDispatch (taskGroupId : String) : MessageHeader :=
  { messageId := "msg-child"
    sessionId := "session"
    traceId := "trace"
    sourceAgentType := "caller"
    targetAgentType := "callee"
    parentMessageId := "msg-caller"
    taskGroupId := taskGroupId }

/-- The caller is suspended and the callee still recorded as running on a worker without a lease;
the worker died once it had stored what it stores before the reply. -/
def answeredStore (taskGroupId : String) : RedisStore :=
  let caller : ExecutionRecord :=
    { executionId := "exec-caller"
      messageId := "msg-caller"
      sessionId := "session"
      targetAgentType := "caller"
      status := AgentState.waitingAgent }
  let child : ExecutionRecord :=
    { buildExecutionRecord (answeredDispatch taskGroupId) (.ctrlStream "callee") "exec-child" "" with
      workerId := "worker"
      status := statusRunning }
  let records := (Redis.Store.empty.exec (.hset (.sessionRegistry "session")
    [(execField "exec-caller", .execution caller), (msgMapField "msg-caller", .text "exec-caller"),
      (execField "exec-child", .execution child), (msgMapField "msg-child", .text "exec-child")])).2
  let grouped := (records.exec (.hset (.taskGroup taskGroupId)
    [(taskGroupFieldTotal, .text "2")])).2
  (Prog.run redisAnswer ((persistSingleCallResult (answeredDispatch taskGroupId)
    (answeredReply taskGroupId) : Proc Unit PUnit).start ()) grouped).2

def answeredDue (taskGroupId : String) : DueEntry :=
  let entry : WaitIndexMember := (answeredDispatch taskGroupId).asks
  ⟨waitIndexKey "session", encodeMember entry, 1000, entry⟩

def answeredSweep (taskGroupId : String) : RedisStore :=
  (Prog.run redisAnswer ((resolveDecoded
    { workerId := "sweeper", enabled := true, searchFuel := 4 } (answeredDue taskGroupId) :
    Proc Unit SweepOutcome).start ()) (answeredStore taskGroupId)).2

/-- The status and content of what the caller's control stream holds. -/
def heardBy (store : RedisStore) (agentType : String) : List (String × JsonValue) :=
  (store.stream (.ctrlStream agentType)).entries.filterMap fun entry => match entry with
    | .command (.resume reply) => some (reply.status, reply.content)
    | _ => none

/-- Both the stored answer of a call and that of a group member come out as failures. -/
theorem stored_answer_replaced :
    (answeredStore "").field (.taskGroupResults (singleCallTaskGroupId "msg-child")) "msg-child" =
        some (.result (resultData (answeredReply ""))) ∧
      heardBy (answeredSweep "") "caller" = [(AgentState.failed, .string "")] ∧
      heardBy (answeredSweep "tg-1") "caller" = [(AgentState.failed, .string "")] := by
  decide +kernel

end ByFramework
