import ByFramework.Context
import ByFramework.ProcessorCore
import ByFramework.RunnerCore
import ByFramework.StandIn

/-!
Whom the commands of a call tree name as their user: what each hop copies from the command that
woke its handler, and where that is the user the tree was dispatched for.
-/

namespace ByFramework

open Async

def Op.carries : Op → Option GatewayCommand
  | .redis (.xadd _ (.command command)) => some command
  | .redis (.xadd _ (.pendingDelivery _ intent)) => some intent.command
  | _ => none

def readsQuotaOf (userCode : String) : Op := .redis (.get (.controlPlaneUserQuota userCode))

/-- What may send a command on behalf of another one. -/
inductive Hop where
  | call (context : AgentContext) (params : CallAgentParams)
  | fanOut (context : AgentContext) (params : DispatchGroupParams)
  | undispatched (context : AgentContext) (member : AgentContext.GroupMember)
  | reply (workerId : String) (header : MessageHeader) (status : String)
      (agentReturn : AgentReturn)
  | callback (workerId : String) (header : MessageHeader) (status : String)
      (agentReturn : AgentReturn)
  | sweep (options : SweeperOptions) (due : DueEntry) (caller : ExecutionRecord)
      (params : StandInParams)

/-- What a handler's context knows of the command that woke it: a worker's context has the command,
with the history of the session and the metadata of the record, a processor's context has none. -/
def AgentContext.WokenBy (context : AgentContext) (command : GatewayCommand) : Prop :=
  (∃ handled snapshot,
    (handled = command ∨ ∃ history, handled = GatewayWorker.withHistory command history) ∧
      context.currentCommand = restoreInboundMetadata handled snapshot) ∨
  context.currentCommand = noCurrentCommand

namespace Hop

/-- The handler, the reply or the sweep is about this command. -/
def isFor : Hop → GatewayCommand → Prop
  | .call context _, command | .fanOut context _, command | .undispatched context _, command =>
      context.WokenBy command
  | .reply _ header _ _, command =>
      ∃ snapshot owed, resolveReplyCommand command snapshot = some owed ∧ header = owed.header
  | .callback _ header _ _, command =>
      ∃ snapshot, GatewayProcessor.resolveReplyHeader command snapshot = some header
  | .sweep _ due _ _, command => due.entry = command.header.asks

/-- An operation that the hop comes to, whatever is answered to those before it. -/
def issues : Hop → Op → Prop
  | .call context params, op => ((AgentContext.callAgent params).start context).Issues anyReply op
  | .fanOut context params, op =>
      ((AgentContext.dispatchGroup params).start context).Issues anyReply op
  | .undispatched context member, op =>
      (standInReply (context.undispatchedReply member) >>= fun reply =>
        flushPendingGroupReplies [reply] : Proc Unit PUnit).Issues anyReply op
  | .reply workerId header status agentReturn, op =>
      (enqueueAgentReturn workerId header status agentReturn : Proc Unit PUnit).Issues anyReply op
  | .callback workerId header status agentReturn, op =>
      (GatewayProcessor.enqueueCallback workerId header status agentReturn :
        Proc Unit PUnit).Issues anyReply op
  | .sweep options due caller params, op =>
      (emitReply options due caller params : Proc Unit Bool).Issues anyReply op

/-- The hops that pass the user on: those of a handler that a worker woke with a call, but for its
fan-outs, and the callee's own replies. -/
def passesUser : Hop → Prop
  | .call context _ | .undispatched context _ => ∃ ask, context.currentCommand = .askAgent ask
  | .fanOut _ params => params.tasks = []
  | .reply _ _ _ _ | .callback _ _ _ _ => True
  | .sweep _ _ _ _ => False

end Hop

/-- The commands that a dispatch brings about, each hop of which `meets` the condition. Its user
answers the prompts. -/
inductive CallTree (root : AskAgentCommand) (meets : Hop → Prop) : GatewayCommand → Prop where
  | dispatched : CallTree root meets (.askAgent root)
  | answered {answer : ResumeCommand} (userCode : answer.header.userCode = root.header.userCode)
      (userName : answer.header.userName = root.header.userName) :
      CallTree root meets (.resume answer)
  | sent {hop : Hop} {woken sent : GatewayCommand} {op : Op} (known : CallTree root meets woken)
      (isFor : hop.isFor woken) (met : meets hop) (issued : hop.issues op)
      (carried : op.carries = some sent) : CallTree root meets sent

def onBehalf (userCode userName : String) : Contract effects :=
  .only fun op => (∀ sent, op.carries = some sent →
      sent.header.userCode = userCode ∧ sent.header.userName = userName) ∧
    ∀ other, op = readsQuotaOf other → other = userCode

section

variable {σ : Type} {userCode userName : String} {inv : σ → Prop}

def namesNobody (op : Op) : Prop := op.carries = none ∧ ∀ other, op ≠ readsQuotaOf other

theorem onBehalf_of_namesNobody {op : Op} (nobody : namesNobody op) :
    (onBehalf userCode userName).allowed op := by
  refine ⟨fun sent carried => ?_, fun other same => absurd same (nobody.2 other)⟩
  rw [nobody.1] at carried
  cases carried

theorem dateNow_onBehalf : (dateNow : Proc σ Int).Uses (onBehalf userCode userName) inv :=
  Task.uses_await (onBehalf_of_namesNobody ⟨rfl, nofun⟩)

theorem shortId_onBehalf (label : String) :
    (shortId label : Proc σ String).Uses (onBehalf userCode userName) inv :=
  Task.uses_bind (Task.uses_await (onBehalf_of_namesNobody ⟨rfl, nofun⟩)) fun _ => Task.uses_pure _

theorem hook_onBehalf (name : String) :
    (hook name : Proc σ PUnit).Uses (onBehalf userCode userName) inv :=
  Task.uses_await (onBehalf_of_namesNobody ⟨rfl, nofun⟩)

theorem uses_redis_nobody {β : Type} {command : RedisCommand} {next : command.Reply → Proc σ β}
    (nobody : namesNobody (.redis command))
    (rest : ∀ value, (next value).Uses (onBehalf userCode userName) inv) :
    (redis command >>= next).Uses (onBehalf userCode userName) inv :=
  uses_redis_bind (onBehalf_of_namesNobody nobody) fun value _ => rest value

theorem registerWait_onBehalf (params : RegisterWaitParams) :
    (registerWait params : Proc σ PUnit).Uses (onBehalf userCode userName) inv := by
  refine Task.uses_failSoft (Task.uses_bind dateNow_onBehalf fun now => ?_)
  refine uses_redis_nobody ⟨rfl, nofun⟩ fun _ => Task.uses_failSoft ?_
  exact uses_redis_nobody ⟨rfl, nofun⟩ fun _ => Task.uses_pure _

theorem initializeExecution_onBehalf (record : ExecutionRecord) :
    (initializeExecution record : Proc σ PUnit).Uses (onBehalf userCode userName) inv := by
  refine Task.uses_bind dateNow_onBehalf fun now => uses_pipeline (fun command listed => ?_)
    (onBehalf_of_namesNobody ⟨rfl, nofun⟩)
  simp only [List.mem_cons, List.not_mem_nil, or_false] at listed
  rcases listed with rfl | rfl | rfl <;> exact onBehalf_of_namesNobody ⟨rfl, nofun⟩

theorem readJson_onBehalf {key : Key} (other : ∀ user, key = .controlPlaneUserQuota user →
    user = userCode) :
    (readJson key : Proc σ _).Uses (onBehalf userCode userName) inv := by
  refine uses_redis_bind ⟨nofun, fun user same => ?_⟩ fun found _ => ?_
  · cases same
    exact other user rfl
  · split <;> exact Task.uses_pure _

theorem onlineOf_onBehalf (workers : List String) :
    (onlineOf workers : Proc σ _).Uses (onBehalf userCode userName) inv := by
  induction workers with
  | nil => exact Task.uses_pure _
  | cons workerId rest ih =>
      have probes : (isWorkerOnline workerId : Proc σ Bool).Uses (onBehalf userCode userName) inv :=
        uses_redis_nobody ⟨rfl, nofun⟩ fun _ => Task.uses_pure _
      refine Task.uses_bind probes fun online => ?_
      exact Task.uses_bind ih fun others => Task.uses_pure _

theorem hasOnlineAgentType_onBehalf (agentType : String) :
    (hasOnlineAgentType agentType : Proc σ _).Uses (onBehalf userCode userName) inv :=
  uses_redis_nobody ⟨rfl, nofun⟩ fun workers => onlineOf_onBehalf workers

structure DeliveryIntent.Names (intent : DeliveryIntent) (userCode userName : String) : Prop where
  user : intent.userCode = userCode
  code : intent.command.header.userCode = userCode
  name : intent.command.header.userName = userName

theorem awaitWakeup_onBehalf (intent : DeliveryIntent) (deadline : Int) (polls : Nat) :
    (awaitWakeup intent deadline polls : Proc σ _).Uses (onBehalf userCode userName) inv := by
  induction polls with
  | zero => exact Task.uses_pure _
  | succ polls ih =>
      refine Task.uses_bind dateNow_onBehalf fun now => ?_
      split
      · refine Task.uses_bind (hasOnlineAgentType_onBehalf _) fun online => ?_
        split
        · exact Task.uses_pure _
        · exact Task.uses_bind dateNow_onBehalf fun _ => ih
      · exact Task.uses_pure _

theorem routeOffline_onBehalf {intent : DeliveryIntent}
    (names : intent.Names userCode userName) :
    (routeOffline intent : Proc σ _).Uses (onBehalf userCode userName) inv := by
  have wakes : (publishWakeup intent : Proc σ PUnit).Uses (onBehalf userCode userName) inv :=
    uses_redis_nobody ⟨rfl, nofun⟩ fun _ => Task.uses_pure _
  have queues : (queuePending intent : Proc σ _).Uses (onBehalf userCode userName) inv := by
    refine uses_redis_bind ⟨fun sent carried => ?_, nofun⟩ fun _ _ => Task.uses_pure _
    cases carried
    exact ⟨names.code, names.name⟩
  unfold routeOffline
  split
  · exact Task.uses_pure _
  · exact queues
  · exact Task.uses_bind wakes fun _ => queues
  · refine Task.uses_bind wakes fun _ => ?_
    dsimp only
    split
    · exact Task.uses_pure _
    · exact Task.uses_bind dateNow_onBehalf fun now => awaitWakeup_onBehalf _ _ _
  · exact Task.uses_pure _

theorem prepareDelivery_onBehalf {intent : DeliveryIntent}
    (names : intent.Names userCode userName) :
    (prepareDelivery intent : Proc σ _).Uses (onBehalf userCode userName) inv := by
  have quota : (quotaRejection intent.userCode : Proc σ _).Uses (onBehalf userCode userName)
      inv := by
    unfold quotaRejection
    split
    · exact Task.uses_pure _
    · refine Task.uses_bind (readJson_onBehalf fun user same => ?_) fun fields => ?_
      · cases same
        exact names.user
      · split <;> exact Task.uses_pure _
  have online : (routeOnline intent : Proc σ _).Uses (onBehalf userCode userName) inv := by
    refine Task.uses_bind (hasOnlineAgentType_onBehalf _) fun online => ?_
    split
    · exact Task.uses_pure _
    · refine Task.uses_bind (readJson_onBehalf nofun) fun fallback => ?_
      refine Task.uses_bind ?_ fun reachable => ?_
      · split
        · exact Task.uses_pure _
        · exact hasOnlineAgentType_onBehalf _
      · split
        · exact Task.uses_pure _
        · exact routeOffline_onBehalf names
  unfold prepareDelivery
  split
  · exact Task.uses_pure _
  · refine Task.uses_bind (readJson_onBehalf nofun) fun circuit => ?_
    split
    · exact Task.uses_pure _
    · refine Task.uses_bind quota fun rejection => ?_
      split
      · exact Task.uses_pure _
      · split
        · exact Task.uses_pure _
        · exact online

theorem publishCallAgent_onBehalf {input : CallAgentPublishInput}
    (code : input.userCode = userCode) (name : input.userName = userName) :
    (publishCallAgent input : Proc σ _).Uses (onBehalf userCode userName) inv := by
  have publishes (messageId : String) :
      (publishCall input messageId : Proc σ _).Uses (onBehalf userCode userName) inv := by
    unfold publishCall
    dsimp only
    generalize headed : askAgentHeader input messageId
      (orElseText input.parentMessageId input.defaultParentMessageId) = header
    generalize made : AskAgentCommand.make header input.content input.waitForReply
      (dropWaitForReply input.extraPayload) = outcome
    cases outcome with
    | error error => exact Task.uses_throw_bind _ _
    | ok command =>
        have names : command.header.userCode = userCode ∧ command.header.userName = userName := by
          rw [AskAgentCommand.make_header made, ← headed]
          exact ⟨code, name⟩
        simp only [orThrow, pure_bind]
        refine Task.uses_bind (shortId_onBehalf _) fun executionId => ?_
        refine Task.uses_bind (prepareDelivery_onBehalf ⟨code, names.1, names.2⟩)
          fun availability => ?_
        split
        · exact Task.uses_bind (initializeExecution_onBehalf _) fun _ => Task.uses_pure _
        · refine Task.uses_bind (Task.uses_when fun _ => registerWait_onBehalf _) fun _ => ?_
          refine Task.uses_bind (initializeExecution_onBehalf _) fun _ => ?_
          refine Task.uses_bind (Task.uses_when fun _ => ?_) fun _ => Task.uses_pure _
          refine uses_redis_bind ⟨fun sent carried => ?_, fun other same => ?_⟩
            fun _ _ => Task.uses_pure _
          · cases carried
            exact names
          · cases same
  refine Task.uses_bind ?_ publishes
  split
  · exact shortId_onBehalf _
  · exact Task.uses_pure _

theorem enqueueAgentReturn_onBehalf {header : MessageHeader} (workerId status : String)
    (agentReturn : AgentReturn) :
    (enqueueAgentReturn workerId header status agentReturn : Proc σ PUnit).Uses
      (onBehalf header.userCode header.userName) inv := by
  have persists (callback : ResumeCommand) : (persistSingleCallResult header callback :
      Proc σ PUnit).Uses (onBehalf header.userCode header.userName) inv := by
    unfold persistSingleCallResult
    split
    · exact Task.uses_pure _
    · refine Task.uses_failSoft (uses_redis_nobody ⟨rfl, nofun⟩ fun _ => ?_)
      exact uses_redis_nobody ⟨rfl, nofun⟩ fun _ => Task.uses_pure _
  have retries (stream : Key) (callback : ResumeCommand) (left : Nat)
      (names : callback.header.userCode = header.userCode ∧
        callback.header.userName = header.userName) :
      (xaddWithRetry stream callback left : Proc σ PUnit).Uses
        (onBehalf header.userCode header.userName) inv := by
    have sends : (onBehalf header.userCode header.userName).allowed
        (.redis (.xadd stream (.command (.resume callback)))) := by
      refine ⟨fun sent carried => ?_, nofun⟩
      cases carried
      exact names
    induction left with
    | zero => exact uses_redis_bind sends fun _ _ => Task.uses_pure _
    | succ left ih =>
        exact Task.uses_tryCatch (uses_redis_bind sends fun _ _ => Task.uses_pure _) fun _ => ih
  unfold enqueueAgentReturn
  split
  · exact Task.uses_pure _
  · refine Task.uses_bind ?_ fun messageId => ?_
    · split
      · exact shortId_onBehalf _
      · exact Task.uses_pure _
    · generalize made : ResumeCommand.make (callbackHeader header workerId messageId
        agentReturn.metadata) agentReturn.content status agentReturn.replyData
        agentReturn.extraPayload = outcome
      cases outcome with
      | error error => exact Task.uses_throw_bind _ _
      | ok callback =>
          simp only [orThrow, pure_bind]
          refine Task.uses_bind (persists callback) fun _ => retries _ _ _ ?_
          rw [ResumeCommand.make_header made]
          exact ⟨rfl, rfl⟩

theorem enqueueCallback_onBehalf {header : MessageHeader} (workerId status : String)
    (agentReturn : AgentReturn) :
    (GatewayProcessor.enqueueCallback workerId header status agentReturn : Proc σ PUnit).Uses
      (onBehalf header.userCode header.userName) inv := by
  have fresh : (onBehalf header.userCode header.userName).allowed .uuid :=
    onBehalf_of_namesNobody ⟨rfl, nofun⟩
  unfold GatewayProcessor.enqueueCallback
  refine Task.uses_bind ?_ fun messageId => Task.uses_bind ?_ fun traceId => ?_
  · split
    · exact shortId_onBehalf _
    · exact Task.uses_pure _
  · split
    · exact Task.uses_bind (Task.uses_await fresh) fun _ => Task.uses_pure _
    · exact Task.uses_pure _
  · refine uses_makeResume_bind fun callback built =>
      uses_redis_bind ⟨fun sent carried => ?_, nofun⟩ fun _ _ => Task.uses_pure _
    cases carried
    show callback.header.userCode = _ ∧ callback.header.userName = _
    rw [built]
    exact ⟨rfl, rfl⟩

theorem resolveReplyCommand_names {command owed : GatewayCommand}
    {snapshot : Option ExecutionRecord}
    (resolved : resolveReplyCommand command snapshot = some owed) :
    owed.header.userCode = command.header.userCode ∧
      owed.header.userName = command.header.userName := by
  cases command with
  | resume resume =>
      simp only [resolveReplyCommand] at resolved
      split at resolved
      · cases resolved
      · split at resolved
        · cases resolved
        · cases resolved
          exact ⟨rfl, rfl⟩
  | _ =>
      simp only [resolveReplyCommand] at resolved
      split at resolved
      · cases resolved
      · cases resolved
        exact ⟨rfl, rfl⟩

theorem resolveReplyHeader_names {command : GatewayCommand} {header : MessageHeader}
    {snapshot : Option ExecutionRecord}
    (resolved : GatewayProcessor.resolveReplyHeader command snapshot = some header) :
    header.userCode = command.header.userCode ∧ header.userName = command.header.userName := by
  cases command with
  | resume resume =>
      simp only [GatewayProcessor.resolveReplyHeader] at resolved
      split at resolved
      · cases resolved
      · split at resolved
        · cases resolved
        · cases resolved
          exact ⟨rfl, rfl⟩
  | _ =>
      simp only [GatewayProcessor.resolveReplyHeader] at resolved
      split at resolved
      · cases resolved
      · cases resolved
        exact ⟨rfl, rfl⟩

end

/-! ### Whole trees -/

section

variable {userCode userName : String} {context : AgentContext}

theorem callAgent_onBehalf (params : CallAgentParams)
    (code : context.inheritedUserCode = userCode) (name : context.inheritedUserName = userName) :
    (AgentContext.callAgent params).Uses (onBehalf userCode userName)
      (fun later => later.currentCommand = context.currentCommand) := by
  refine Task.uses_bind ?_ fun messageId => ?_
  · split
    · exact shortId_onBehalf _
    · exact Task.uses_pure _
  · refine Task.uses_get_bind fun later same => ?_
    have laterCode : later.inheritedUserCode = userCode := by
      rw [← code, AgentContext.inheritedUserCode, AgentContext.askHeader, same]
      rfl
    have laterName : later.inheritedUserName = userName := by
      rw [← name, AgentContext.inheritedUserName, AgentContext.askHeader, same]
      rfl
    refine Task.uses_bind (hook_onBehalf _) fun _ => ?_
    refine Task.uses_bind (Task.uses_tryCatch (publishCallAgent_onBehalf laterCode laterName)
      fun error => Task.uses_bind (hook_onBehalf _) fun _ => Task.uses_throw _) fun raw => ?_
    split
    · exact Task.uses_bind (hook_onBehalf _) fun _ => Task.uses_pure _
    · refine Task.uses_bind (Task.uses_modify fun last kept => ?_) fun _ =>
        Task.uses_bind (hook_onBehalf _) fun _ => Task.uses_pure _
      unfold AgentContext.afterCall
      split
      · exact kept
      · split
        · exact kept
        · exact kept

theorem undispatched_onBehalf (member : AgentContext.GroupMember)
    (code : context.inheritedUserCode = userCode) (name : context.inheritedUserName = userName) :
    (standInReply (context.undispatchedReply member) >>= fun reply =>
      flushPendingGroupReplies [reply] : Proc Unit PUnit).Uses (onBehalf userCode userName) := by
  have fresh : (onBehalf userCode userName).allowed .uuid :=
    onBehalf_of_namesNobody ⟨rfl, nofun⟩
  refine uses_standInReply_bind fresh fun traceId reply built => ?_
  refine Task.uses_forEach _ fun sent listed => Task.uses_failSoft ?_
  refine uses_redis_bind ⟨fun command carried => ?_, nofun⟩ fun _ _ => Task.uses_pure _
  cases carried
  rw [List.mem_singleton.mp listed]
  show reply.header.userCode = userCode ∧ reply.header.userName = userName
  rw [built]
  exact ⟨code, name⟩

theorem restoreInboundMetadata_ask {command : GatewayCommand} {snapshot : Option ExecutionRecord}
    {ask : AskAgentCommand} (restored : .askAgent ask = restoreInboundMetadata command snapshot) :
    command = .askAgent ask := by
  cases command with
  | resume resume => cases restored
  | _ => exact restored.symm

theorem AgentContext.WokenBy.header_of_ask {command : GatewayCommand} {ask : AskAgentCommand}
    (woken : context.WokenBy command) (fresh : context.currentCommand = .askAgent ask) :
    ask.header = command.header := by
  unfold AgentContext.WokenBy at woken
  rw [fresh] at woken
  rcases woken with ⟨handled, snapshot, same | ⟨history, same⟩, current⟩ | none
  · rw [← same, restoreInboundMetadata_ask current]
    rfl
  · rw [← (GatewayWorker.withHistory_header command history).1, ← same,
      restoreInboundMetadata_ask current]
    rfl
  · cases none

theorem inheritedUser {command : GatewayCommand} {ask : AskAgentCommand}
    (woken : context.WokenBy command) (fresh : context.currentCommand = .askAgent ask) :
    context.inheritedUserCode = command.header.userCode ∧
      context.inheritedUserName = command.header.userName := by
  rw [← woken.header_of_ask fresh]
  simp only [AgentContext.inheritedUserCode, AgentContext.inheritedUserName,
    AgentContext.askHeader, fresh, Option.map_some, Option.getD_some, and_self]

theorem Hop.onBehalf_of_passesUser {hop : Hop} {woken : GatewayCommand} {op : Op}
    (isFor : hop.isFor woken) (passes : hop.passesUser) (issued : hop.issues op) :
    (onBehalf woken.header.userCode woken.header.userName).allowed op := by
  cases hop with
  | call context params =>
      obtain ⟨ask, fresh⟩ := passes
      obtain ⟨code, name⟩ := inheritedUser isFor fresh
      exact (callAgent_onBehalf params code name context rfl).issues issued fun _ _ _ => trivial
  | fanOut context params =>
      have nothing : AgentContext.dispatchGroup params = pure ⟨"EMPTY", "", []⟩ := by
        unfold AgentContext.dispatchGroup
        rw [show params.tasks = [] from passes]
        rfl
      have quiet : (AgentContext.dispatchGroup params).Uses
          (onBehalf woken.header.userCode woken.header.userName) := by
        rw [nothing]
        exact Task.uses_pure _
      exact (quiet context trivial).issues issued fun _ _ _ => trivial
  | undispatched context member =>
      obtain ⟨ask, fresh⟩ := passes
      obtain ⟨code, name⟩ := inheritedUser isFor fresh
      exact (undispatched_onBehalf member code name).issues issued fun _ _ _ => trivial
  | reply workerId header status agentReturn =>
      obtain ⟨snapshot, owed, resolved, rfl⟩ := isFor
      obtain ⟨code, name⟩ := resolveReplyCommand_names resolved
      rw [← code, ← name]
      exact (enqueueAgentReturn_onBehalf workerId status agentReturn).issues issued
        fun _ _ _ => trivial
  | callback workerId header status agentReturn =>
      obtain ⟨snapshot, resolved⟩ := isFor
      obtain ⟨code, name⟩ := resolveReplyHeader_names resolved
      rw [← code, ← name]
      exact (enqueueCallback_onBehalf workerId status agentReturn).issues issued
        fun _ _ _ => trivial
  | sweep options due caller params => exact absurd passes id

/-- In a call tree whose hops all pass the user on, every command names the root's user, and every
quota that is looked up is that user's. -/
theorem user_identity_reaches_every_hop {root : AskAgentCommand} :
    (∀ command, CallTree root Hop.passesUser command →
      command.header.userCode = root.header.userCode ∧
        command.header.userName = root.header.userName) ∧
    ∀ (hop : Hop) woken userCode, CallTree root Hop.passesUser woken → hop.isFor woken →
      hop.passesUser → hop.issues (readsQuotaOf userCode) → userCode = root.header.userCode := by
  have named (command : GatewayCommand) (tree : CallTree root Hop.passesUser command) :
      command.header.userCode = root.header.userCode ∧
        command.header.userName = root.header.userName := by
    induction tree with
    | dispatched => exact ⟨rfl, rfl⟩
    | answered userCode userName => exact ⟨userCode, userName⟩
    | sent known isFor met issued carried ih =>
        obtain ⟨code, name⟩ := (Hop.onBehalf_of_passesUser isFor met issued).1 _ carried
        exact ⟨code.trans ih.1, name.trans ih.2⟩
  refine ⟨named, fun hop woken userCode tree isFor passes issued => ?_⟩
  have looked := (Hop.onBehalf_of_passesUser isFor passes issued).2 userCode rfl
  exact looked.trans (named woken tree).1

end

/-! ### A user's tree -/

/-- The root of a tree that a user with a code and a name dispatched. -/
def identifiedAsk : AskAgentCommand :=
  { header := identifiedDispatch.header
    content := .string "question"
    nonEmpty := Eq.refl true }

def identifiedContext : AgentContext :=
  { sessionId := "session"
    traceId := "trace"
    currentAgentType := "callee"
    currentMessageId := "msg-child"
    currentCommand := .askAgent identifiedAsk
    workerId := "worker" }

def identifiedCall : CallAgentParams :=
  { targetAgentType := "helper"
    content := .string "subtask"
    messageId := "msg-helper"
    routePolicy := .sendAnyway }

theorem identifiedCall_looks_up_quota :
    (Hop.call identifiedContext identifiedCall).issues (readsQuotaOf "u1") := by
  show ((AgentContext.callAgent identifiedCall).start identifiedContext).Issues anyReply
    (readsQuotaOf "u1")
  have started : anyReply.expected (.hook "onCallAgentStart") () := trivial
  have numbered : anyReply.expected .uuid "" := trivial
  have closed : anyReply.expected (.redis (.get (.controlPlaneAgentCircuit "helper"))) (.ok none) :=
    trivial
  exact .later started (.later numbered (.later closed .here))

theorem user_identity_reaches_identified :
    (∃ reply : ResumeCommand, CallTree identifiedAsk Hop.passesUser (.resume reply) ∧
      reply.header.userCode = "u1" ∧ reply.header.userName = "User") ∧
    "u1" = identifiedAsk.header.userCode := by
  have valid : AgentState.completed ≠ "" := by decide
  obtain ⟨reply, answered⟩ : ∃ reply, answerOf "worker" AgentState.completed
      identifiedAsk.header identifiedAnswer (orElseText identifiedAsk.header.parentMessageId
        ("msg-" ++ String.ofList ("".toList.take 8))) = .ok reply :=
    ⟨_, ResumeCommand.make_valid (.inl valid)⟩
  have owed : identifiedAsk.header.sourceAgentType ≠ "" := by decide
  have issued : (Hop.reply "worker" identifiedAsk.header AgentState.completed
      identifiedAnswer).issues _ := enqueueAgentReturn_issues owed answered
  have resolved : resolveReplyCommand (.askAgent identifiedAsk) none =
      some (.askAgent identifiedAsk) := by decide
  have isFor : (Hop.reply "worker" identifiedAsk.header AgentState.completed
      identifiedAnswer).isFor (.askAgent identifiedAsk) := ⟨none, _, resolved, rfl⟩
  have tree : CallTree identifiedAsk Hop.passesUser (.resume reply) :=
    .sent .dispatched isFor trivial issued rfl
  refine ⟨⟨reply, tree, user_identity_reaches_every_hop.1 _ tree⟩, ?_⟩
  exact user_identity_reaches_every_hop.2 (.call identifiedContext identifiedCall)
    (.askAgent identifiedAsk) "u1" .dispatched (.inl ⟨_, none, .inl rfl, rfl⟩) ⟨identifiedAsk, rfl⟩
    identifiedCall_looks_up_quota

def usersAsked (agentType : String) (task : Proc AgentContext Unit) (context : AgentContext) :
    List (String × String) :=
  let store := (Prog.run redisAnswer (task.start context) Redis.Store.empty).2
  (store.stream (.ctrlStream agentType)).entries.filterMap fun entry => match entry with
    | .command (.askAgent ask) => some (ask.header.userCode, ask.header.userName)
    | _ => none

theorem resumed_filled : AgentState.completed ≠ "" ∨ hasContent (.string "answer") = true := by
  decide

def resumedContext : AgentContext :=
  { identifiedContext with
    currentCommand := .resume
      { header := { identifiedAsk.header with sourceAgentType := "helper" }
        content := .string "answer"
        status := AgentState.completed
        nonEmpty := resumed_filled } }

/-- A call names the user while the handler is fresh; a fan-out does not, nor does a call once the
handler was resumed, nor one that a processor's handler makes. -/
theorem fan_out_and_resumed_call_name_nobody :
    usersAsked "helper" (do let _ ← AgentContext.callAgent identifiedCall) identifiedContext =
        [("u1", "User")] ∧
      usersAsked "helper" (do
        let _ ← AgentContext.dispatchGroup
          { tasks := [{ targetAgentType := "helper", content := "subtask" }]
            waitForReply := false }) identifiedContext = [("", "")] ∧
      usersAsked "helper" (do let _ ← AgentContext.callAgent identifiedCall) resumedContext =
        [("", "")] ∧
      usersAsked "helper" (do let _ ← AgentContext.callAgent identifiedCall)
        (GatewayProcessor.newContext (.askAgent identifiedAsk) "trace") = [("", "")] := by
  decide +kernel

end ByFramework
