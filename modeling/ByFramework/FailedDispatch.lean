import ByFramework.Context

/-!
What a dispatch that throws or is refused leaves of the flags of its context, whatever Redis, the
clock and fresh ids answer on the way.
-/

namespace ByFramework

open Async

abbrev anyAnswer : Unit → (op : Op) → op.Reply → Unit → Prop := fun _ _ _ _ => True

inductive DispatchCall where
  | ofAgent (params : CallAgentParams)
  | ofGroup (params : DispatchGroupParams)

/-- Whether the call reports a dispatch, unless it throws. -/
def DispatchCall.program : DispatchCall → Proc AgentContext Bool
  | .ofAgent params => do
      let result ← AgentContext.callAgent params
      pure (result.status ≠ AgentState.failed)
  | .ofGroup params => do
      let _ ← AgentContext.dispatchGroup params
      pure true

/-- What decides how the end of the run is recorded, and what is sent in the place of members. -/
structure SameFlags (before after : AgentContext) : Prop where
  isSuspended : after.isSuspended = before.isSuspended
  suspendedState : after.suspendedState = before.suspendedState
  permissionTransferred : after.permissionTransferred = before.permissionTransferred
  pendingGroupReplies : after.pendingGroupReplies = before.pendingGroupReplies

def DispatchGroupParams.MayQueueEarly (params : DispatchGroupParams) (context : AgentContext) :
    Prop :=
  context.currentAgentType ≠ "" ∧
    ∃ first second rest, params.tasks = first :: second :: rest ∧
      hasContent (.string first.content) = true

/-- The group marks the context before its last member is out. -/
def DispatchCall.MarksEarly (context : AgentContext) : DispatchCall → Prop
  | .ofAgent _ => False
  | .ofGroup params => params.tasks ≠ [] ∧
      if params.waitForReply = true then
        ¬ (context.isSuspended = true ∧ context.suspendedState = AgentState.waitingAgent) ∨
          params.MayQueueEarly context
      else context.permissionTransferred = false

theorem SameFlags.refl (context : AgentContext) : SameFlags context context := ⟨rfl, rfl, rfl, rfl⟩

section

variable {α : Type} {context : AgentContext}

section Untouched

variable {serve : Unit → (op : Op) → op.Reply → Unit → Prop}

theorem wp_untouched {task : Proc AgentContext α}
    (uses : task.Uses (.only fun _ => True) (· = context)) :
    task.wp (.alone serve) (fun _ after _ => after = context) context () := by
  refine Task.wp_mono (Task.wp_of_uses (fun _ _ _ _ _ => trivial) ?_ uses rfl trivial)
    fun _ _ _ _ kept => kept.1
  exact fun _ _ _ _ _ => ⟨trivial, fun _ _ _ _ => ⟨trivial, trivial⟩⟩

theorem registerWait_untouched (params : RegisterWaitParams) :
    (registerWait params : Proc AgentContext PUnit).wp (.alone serve) (fun outcome after _ =>
      outcome = .ok ⟨⟩ ∧ after = context) context () := by
  refine Task.wp_alone_tryCatch (Task.wp_mono (wp_untouched ?_) ?_)
  · refine Task.uses_bind (Task.uses_await trivial) fun now => ?_
    refine uses_redis_bind trivial fun _ _ => ?_
    exact Task.uses_failSoft (uses_redis_bind trivial fun _ _ => Task.uses_pure _)
  · rintro outcome after - - rfl
    cases outcome with
    | ok _ => exact ⟨rfl, rfl⟩
    | error error => exact Task.wp_alone_pure ⟨rfl, rfl⟩

theorem standInReply_untouched {params : StandInReplyParams} (stated : params.status ≠ "") :
    (standInReply params : Proc AgentContext ResumeCommand).wp (.alone serve)
      (fun outcome after _ => (∃ reply, outcome = .ok reply) ∧ after = context) context () := by
  have named : (if params.traceId = "" then plainId else pure params.traceId :
      Proc AgentContext String).wp (.alone serve)
      (fun outcome after _ => (∃ traceId, outcome = .ok traceId) ∧ after = context) context () := by
    split
    · refine Task.wp_alone_bind (Task.wp_alone_await ?_)
      intro id _ _
      exact Task.wp_alone_pure ⟨⟨_, rfl⟩, rfl⟩
    · exact Task.wp_alone_pure ⟨⟨_, rfl⟩, rfl⟩
  refine Task.wp_alone_bind (Task.wp_mono named ?_)
  rintro _ _ _ - ⟨⟨traceId, rfl⟩, rfl⟩
  unfold ResumeCommand.make
  dsimp only
  rw [dif_pos (.inl stated)]
  exact Task.wp_alone_pure ⟨⟨_, rfl⟩, rfl⟩

theorem queueUndispatchedMemberFailure_leaves (member : AgentContext.GroupMember) :
    (AgentContext.queueUndispatchedMemberFailure member).wp (.alone serve) (fun outcome after _ =>
      outcome = .ok ⟨⟩ ∧ (context.currentAgentType = "" → after = context) ∧
        (context.currentAgentType ≠ "" → ∃ reply,
          after.pendingGroupReplies = context.pendingGroupReplies ++ [reply])) context () := by
  refine Task.wp_alone_bind (Task.wp_alone_get ?_)
  refine Task.wp_alone_bind (Task.wp_mono (registerWait_untouched _) ?_)
  rintro _ _ - - ⟨rfl, rfl⟩
  dsimp only
  split
  · rename_i unnamed
    exact Task.wp_alone_pure ⟨rfl, fun _ => rfl, fun named => absurd unnamed named⟩
  · rename_i named
    refine Task.wp_alone_bind (Task.wp_mono (standInReply_untouched
      (show AgentState.failed ≠ "" by decide)) ?_)
    rintro _ _ - - ⟨⟨reply, rfl⟩, rfl⟩
    exact Task.wp_alone_modify ⟨rfl, fun unnamed => absurd unnamed named, fun _ => ⟨reply, rfl⟩⟩

end Untouched

theorem publishMember_untouched (member : AgentContext.GroupMember) (command : AskAgentCommand) :
    (AgentContext.publishMember member command).Uses (.only fun _ => True) (· = context) := by
  refine Task.uses_bind Task.uses_get fun known => ?_
  refine Task.uses_bind (shortId_handler (fun _ _ _ => trivial) _) fun executionId => ?_
  refine Task.uses_bind (initializeExecution_handler (fun _ _ _ => trivial)
    fun _ _ => ⟨trivial, trivial⟩) fun _ => ?_
  refine Task.uses_bind (Task.uses_when fun _ => registerWait_handler (fun _ _ _ => trivial) _)
    fun _ => ?_
  refine Task.uses_bind (Task.uses_tryCatch (uses_redis_bind trivial fun _ _ => Task.uses_pure _)
    fun error => ?_) fun _ => Task.uses_await trivial
  refine Task.uses_bind (Task.uses_await trivial) fun _ => ?_
  refine Task.uses_bind (Task.uses_when fun _ => Task.uses_failSoft ?_) fun _ => Task.uses_throw _
  exact uses_redis_bind trivial fun _ _ => Task.uses_pure _

theorem probeGroupMemberOnline_untouched (targetAgentType : String) :
    (AgentContext.probeGroupMemberOnline targetAgentType).Uses (.only fun _ => True)
      (· = context) :=
  Task.uses_tryCatch (Task.uses_bind (handler_of_reading (fun _ _ _ => trivial)
    (hasOnlineAgentType_reading _)) fun _ => Task.uses_pure _) fun _ => Task.uses_pure _

def MemberLeaves (params : DispatchGroupParams) (task : GroupTask) (context : AgentContext)
    (outcome : Except JsError DispatchedTask) (after : AgentContext) : Prop :=
  ((∃ dispatched, outcome = .ok dispatched) → hasContent (.string task.content) = true) ∧
  (after = context ∨ (∃ dispatched, outcome = .ok dispatched) ∧ params.waitForReply = true ∧
    context.currentAgentType ≠ "")

theorem MemberLeaves.unchanged {params : DispatchGroupParams} {task : GroupTask}
    {outcome : Except JsError DispatchedTask}
    (filled : (∃ dispatched, outcome = .ok dispatched) → hasContent (.string task.content) = true) :
    MemberLeaves params task context outcome context :=
  ⟨filled, .inl rfl⟩

theorem failMember_leaves (member : AgentContext.GroupMember) :
    (AgentContext.failMember member).wp (.alone anyAnswer) (fun outcome after _ =>
      after = context ∨ (outcome = .ok ⟨⟩ ∧ context.currentAgentType ≠ "")) context () := by
  refine Task.wp_alone_bind (Task.wp_alone_get ?_)
  refine Task.wp_alone_bind (Task.wp_mono (wp_untouched
    (shortId_handler (fun _ _ _ => trivial) _)) ?_)
  rintro outcome after - - rfl
  cases outcome with
  | error error => exact .inl rfl
  | ok executionId =>
      refine Task.wp_alone_bind (Task.wp_mono (wp_untouched
        (initializeExecution_handler (fun _ _ _ => trivial) fun _ _ =>
          ⟨trivial, trivial⟩)) ?_)
      rintro outcome after - - rfl
      cases outcome with
      | error error => exact .inl rfl
      | ok _ =>
          refine Task.wp_alone_bind (Task.wp_mono (queueUndispatchedMemberFailure_leaves _) ?_)
          rintro _ last - - ⟨rfl, unnamed, -⟩
          refine Task.wp_alone_await ?_
          rintro _ _ -
          by_cases named : after.currentAgentType = ""
          · exact .inl (unnamed named)
          · exact .inr ⟨rfl, named⟩

theorem dispatchMember_leaves (taskGroupId : String) (params : DispatchGroupParams)
    (task : GroupTask) :
    (AgentContext.dispatchMember taskGroupId params task).wp (.alone anyAnswer)
      (fun outcome after _ => MemberLeaves params task context outcome after) context () := by
  refine Task.wp_alone_bind (Task.wp_mono (wp_untouched
    (shortId_handler (fun _ _ _ => trivial) _)) ?_)
  rintro outcome after - - rfl
  cases outcome with
  | error error =>
      refine .unchanged ?_
      rintro ⟨_, returned⟩
      cases returned
  | ok messageId =>
      refine Task.wp_alone_bind (Task.wp_alone_get ?_)
      unfold AskAgentCommand.make
      dsimp only
      split
      · rename_i filled
        refine Task.wp_alone_bind (Task.wp_alone_pure ?_)
        refine Task.wp_alone_bind (Task.wp_alone_await ?_)
        rintro _ _ -
        have probed : (if params.waitForReply = true then
            AgentContext.probeGroupMemberOnline task.targetAgentType else pure true).wp
            (.alone anyAnswer) (fun outcome last _ => last = after ∧
              (outcome = .ok false → params.waitForReply = true)) after () := by
          split
          · rename_i waits
            refine Task.wp_mono (wp_untouched (probeGroupMemberOnline_untouched _)) ?_
            exact fun _ _ _ _ same => ⟨same, fun _ => waits⟩
          · exact Task.wp_alone_pure ⟨rfl, fun offline => by cases offline⟩
        refine Task.wp_alone_bind (Task.wp_mono probed ?_)
        rintro outcome _ - - ⟨rfl, offline⟩
        cases outcome with
        | error error => exact .unchanged fun _ => filled
        | ok online =>
            cases online with
            | true =>
                refine Task.wp_alone_bind (Task.wp_mono (wp_untouched
                  (publishMember_untouched _ _)) ?_)
                rintro outcome _ - - rfl
                cases outcome with
                | error error => exact .unchanged fun _ => filled
                | ok _ => exact Task.wp_alone_pure (.unchanged fun _ => filled)
            | false =>
                refine Task.wp_alone_bind (Task.wp_mono (failMember_leaves _) ?_)
                rintro outcome last - - left
                have ends (result : Except JsError DispatchedTask)
                    (dispatched : outcome = .ok ⟨⟩ → ∃ value, result = .ok value) :
                    MemberLeaves params task _ result last :=
                  ⟨fun _ => filled, left.imp_right fun both =>
                    ⟨dispatched both.1, offline rfl, both.2⟩⟩
                cases outcome with
                | error error => exact ends _ fun returned => by cases returned
                | ok _ => exact Task.wp_alone_pure (ends _ fun _ => ⟨_, rfl⟩)
      · rename_i blank
        refine Task.wp_alone_bind (Task.wp_alone_throw ?_)
        refine .unchanged ?_
        rintro ⟨_, returned⟩
        cases returned

def AgentContext.begun (context : AgentContext) (wait : Bool) : AgentContext :=
  if wait then context.suspend AgentState.waitingAgent
  else { context with permissionTransferred := true }

theorem beginGroup_leaves (taskGroupId : String) (total : Nat) (wait : Bool) :
    (AgentContext.beginGroup taskGroupId total wait).wp (.alone anyAnswer) (fun outcome after _ =>
      (∃ error, outcome = .error error) ∧ after = context ∨
        outcome = .ok ⟨⟩ ∧ after = context.begun wait) context () := by
  refine Task.wp_alone_bind (Task.wp_alone_get ?_)
  cases wait with
  | false => exact Task.wp_alone_modify (.inr ⟨rfl, rfl⟩)
  | true =>
      have sent (command : RedisCommand) : (redis command : Proc AgentContext _).wp
          (.alone anyAnswer) (fun _ after _ => after = context) context () :=
        wp_untouched (uses_redis trivial)
      dsimp only
      refine Task.wp_alone_bind (Task.wp_mono (sent _) ?_)
      rintro outcome after - - rfl
      cases outcome with
      | error error => exact .inl ⟨⟨_, rfl⟩, rfl⟩
      | ok _ =>
          refine Task.wp_alone_bind (Task.wp_mono (sent _) ?_)
          rintro outcome after - - rfl
          cases outcome with
          | error error => exact .inl ⟨⟨_, rfl⟩, rfl⟩
          | ok _ => exact Task.wp_alone_modify (.inr ⟨rfl, rfl⟩)

theorem members_restore (taskGroupId : String) {params : DispatchGroupParams}
    (safe : params.waitForReply = true → ¬ params.MayQueueEarly context) :
    (Task.mapEach params.tasks (AgentContext.dispatchMember taskGroupId params)).wp
      (.alone anyAnswer) (fun outcome after _ =>
        (∃ dispatched, outcome = .ok dispatched) ∨ after = context) context () := by
  by_cases answerable : params.waitForReply = true ∧ context.currentAgentType ≠ ""
  · have first (task : GroupTask) (rest : List GroupTask)
        (last : hasContent (.string task.content) = true → rest = []) :
        (Task.mapEach (task :: rest) (AgentContext.dispatchMember taskGroupId params)).wp
          (.alone anyAnswer) (fun outcome after _ =>
            (∃ dispatched, outcome = .ok dispatched) ∨ after = context) context () := by
      refine Task.wp_alone_bind (Task.wp_mono (dispatchMember_leaves taskGroupId params task) ?_)
      rintro outcome after - - ⟨filled, left⟩
      cases outcome with
      | error error =>
          rcases left with unchanged | ⟨⟨_, returned⟩, -⟩
          · exact .inr unchanged
          · cases returned
      | ok dispatched =>
          rw [last (filled ⟨_, rfl⟩)]
          exact Task.wp_alone_bind (Task.wp_alone_pure (Task.wp_alone_pure (.inl ⟨_, rfl⟩)))
    cases tasks : params.tasks with
    | nil => exact Task.wp_alone_pure (.inl ⟨[], rfl⟩)
    | cons task rest =>
        refine first task rest fun filled => ?_
        cases rest with
        | nil => rfl
        | cons second rest =>
            exact absurd ⟨answerable.2, task, second, rest, tasks, filled⟩ (safe answerable.1)
  · have keeps : (Task.mapEach params.tasks (AgentContext.dispatchMember taskGroupId params)).Keeps
        (.alone anyAnswer) fun after _ => after = context := by
      refine Task.keeps_mapEach params.tasks fun task _ => ?_
      rintro _ _ rfl
      refine Task.wp_mono (dispatchMember_leaves taskGroupId params task) ?_
      rintro outcome after - - ⟨-, unchanged | ⟨-, queued⟩⟩
      · exact unchanged
      · exact absurd queued answerable
    exact Task.wp_mono (keeps context () rfl) fun _ _ _ _ unchanged => .inr unchanged

theorem begun_of_spares {params : DispatchGroupParams} (nonempty : params.tasks ≠ [])
    (spares : ¬ (DispatchCall.ofGroup params).MarksEarly context) :
    SameFlags context (context.begun params.waitForReply) ∧
      (params.waitForReply = true →
        ¬ params.MayQueueEarly (context.begun params.waitForReply)) := by
  have unmarked := fun marks => spares ⟨nonempty, marks⟩
  cases waits : params.waitForReply with
  | false =>
      have transferred : context.permissionTransferred = true := by simpa [waits] using unmarked
      exact ⟨⟨rfl, rfl, transferred.symm, rfl⟩, fun impossible => by cases impossible⟩
  | true =>
      rw [waits, if_pos rfl] at unmarked
      obtain ⟨flagged, queueless⟩ := not_or.mp unmarked
      obtain ⟨suspended, waiting⟩ := not_not.mp flagged
      exact ⟨⟨suspended.symm, waiting.symm, rfl, rfl⟩, fun _ => queueless⟩

theorem dispatchGroup_restores {params : DispatchGroupParams}
    (spares : ¬ (DispatchCall.ofGroup params).MarksEarly context) :
    (AgentContext.dispatchGroup params).wp (.alone anyAnswer) (fun outcome after _ =>
      (∃ result, outcome = .ok result) ∨ SameFlags context after) context () := by
  unfold AgentContext.dispatchGroup
  split
  · exact Task.wp_alone_pure (.inl ⟨_, rfl⟩)
  · rename_i filled
    have nonempty : params.tasks ≠ [] := by simpa using filled
    refine Task.wp_alone_bind (Task.wp_mono (wp_untouched
      (shortId_handler (fun _ _ _ => trivial) _)) ?_)
    rintro outcome after - - rfl
    cases outcome with
    | error error => exact .inr (.refl _)
    | ok taskGroupId =>
        refine Task.wp_alone_bind (Task.wp_mono (beginGroup_leaves _ _ _) ?_)
        rintro outcome begun - - (⟨⟨error, rfl⟩, rfl⟩ | ⟨rfl, rfl⟩)
        · exact .inr (.refl _)
        · obtain ⟨same, safe⟩ := begun_of_spares nonempty spares
          refine Task.wp_alone_bind (Task.wp_mono (members_restore taskGroupId safe) ?_)
          rintro outcome last - - left
          cases outcome with
          | ok dispatched => exact Task.wp_alone_pure (.inl ⟨_, rfl⟩)
          | error error =>
              rcases left with ⟨_, returned⟩ | rfl
              · cases returned
              · exact .inr same

theorem callAgent_restores (params : CallAgentParams) :
    (AgentContext.callAgent params).wp (.alone anyAnswer) (fun outcome after _ =>
      (∀ result, outcome = .ok result → result.status = AgentState.failed) →
        after = context) context () := by
  refine Task.wp_alone_bind (Task.wp_mono (wp_untouched ?_) ?_)
  · split
    · exact shortId_handler (fun _ _ _ => trivial) _
    · exact Task.uses_pure _
  rintro outcome after - - rfl
  cases outcome with
  | error error => exact fun _ => rfl
  | ok messageId =>
      refine Task.wp_alone_bind (Task.wp_alone_get ?_)
      refine Task.wp_alone_bind (Task.wp_alone_await ?_)
      rintro _ _ -
      refine Task.wp_alone_bind (Task.wp_alone_tryCatch (Task.wp_mono (wp_untouched
        (publishCallAgent_handler (fun _ _ _ => trivial) (fun _ _ _ _ => ⟨trivial, trivial⟩) _)) ?_))
      rintro outcome after - - rfl
      cases outcome with
      | error error =>
          refine Task.wp_alone_bind (Task.wp_alone_await ?_)
          rintro _ _ -
          exact Task.wp_alone_throw fun _ => rfl
      | ok raw =>
          dsimp only
          split
          · refine Task.wp_alone_bind (Task.wp_alone_await ?_)
            rintro _ _ -
            exact Task.wp_alone_pure fun _ => rfl
          · rename_i queued
            refine Task.wp_alone_bind (Task.wp_alone_modify ?_)
            refine Task.wp_alone_bind (Task.wp_alone_await ?_)
            rintro _ _ -
            exact Task.wp_alone_pure fun refused => absurd (refused _ rfl) queued

/-! ### How a group fails late -/

def steer (pipelines : Bool) : (op : Op) → op.Reply
  | .endPipeline => if pipelines then .ok () else .error ⟨"Error", "Connection is closed."⟩
  | op => (redisAnswer .empty op).1

abbrev steered (pipelines : Bool) : Unit → (op : Op) → op.Reply → Unit → Prop :=
  fun _ op reply _ => reply = steer pipelines op

def steeredAnswer (pipelines : Bool) (state : Unit) (op : Op) : op.Reply × Unit :=
  (steer pipelines op, state)

theorem steeredAnswer_serves (pipelines : Bool) (state : Unit) (op : Op) :
    steered pipelines state op (steeredAnswer pipelines state op).1
      (steeredAnswer pipelines state op).2 := rfl

theorem ends_of_steered {task : Proc AgentContext α} (pipelines : Bool)
    {fact : Except JsError α → AgentContext → Prop}
    (holds : task.wp (.alone (steered pipelines)) (fun outcome after _ => fact outcome after)
      context ()) :
    ∃ outcome after, (task.start context).Ends anyAnswer () (outcome, after) () ∧
      fact outcome after := by
  obtain ⟨outcome, after, _, ends, reached⟩ := Task.ends_of_wp (steeredAnswer_serves pipelines)
    (fun _ _ _ _ _ => trivial) holds
  exact ⟨outcome, after, ends, reached⟩

theorem wp_redis_steered {pipelines : Bool} {command : RedisCommand}
    {post : Except JsError command.Reply → AgentContext → Unit → Prop}
    (holds : post (((Redis.Store.empty : RedisStore).exec command).1.mapError redisError) context
      ()) :
    (redis command : Proc AgentContext _).wp (.alone (steered pipelines)) post context () := by
  refine wp_redis ?_
  rintro _ - -
  refine ⟨trivial, ?_⟩
  rintro reply _ served - _ - -
  rw [show reply = _ from served]
  exact holds

theorem pipeline_steered (pipelines : Bool) (commands : List RedisCommand) :
    (pipeline commands : Proc AgentContext PUnit).wp (.alone (steered pipelines))
      (fun outcome after _ => after = context ∧ if pipelines then outcome = .ok ⟨⟩ else
        ∃ error, outcome = .error error) context () := by
  refine Task.wp_alone_bind (Task.wp_mono (Task.wp_alone_forEach (fun after _ => after = context)
    commands (fun command _ _ _ same => ?_) rfl) ?_)
  · refine Task.wp_alone_bind (Task.wp_alone_await ?_)
    intro _ _ _
    exact Task.wp_alone_pure ⟨rfl, same⟩
  · rintro _ _ - - ⟨rfl, rfl⟩
    refine Task.wp_alone_bind (Task.wp_alone_await ?_)
    rintro _ _ rfl
    cases pipelines with
    | true => exact Task.wp_alone_pure ⟨rfl, rfl⟩
    | false => exact Task.wp_alone_throw ⟨rfl, _, rfl⟩

theorem initializeExecution_steered (pipelines : Bool) (record : ExecutionRecord) :
    (initializeExecution record : Proc AgentContext PUnit).wp (.alone (steered pipelines))
      (fun outcome after _ => after = context ∧ if pipelines then outcome = .ok ⟨⟩ else
        ∃ error, outcome = .error error) context () := by
  refine Task.wp_alone_bind (Task.wp_alone_await ?_)
  intro now _ _
  exact pipeline_steered pipelines _

theorem probeGroupMemberOnline_steered (pipelines : Bool) (targetAgentType : String) :
    (AgentContext.probeGroupMemberOnline targetAgentType).wp (.alone (steered pipelines))
      (fun outcome after _ => outcome = .ok false ∧ after = context) context () := by
  refine Task.wp_alone_tryCatch (Task.wp_alone_bind (Task.wp_alone_bind (wp_redis_steered ?_)))
  exact Task.wp_alone_pure (Task.wp_alone_pure ⟨rfl, rfl⟩)

theorem generate_steered (pipelines : Bool) (label : String) :
    (shortId label : Proc AgentContext String).wp (.alone (steered pipelines))
      (fun outcome after _ => (∃ id, outcome = .ok id) ∧ after = context) context () := by
  refine Task.wp_alone_bind (Task.wp_alone_await ?_)
  intro id _ _
  exact Task.wp_alone_pure ⟨⟨_, rfl⟩, rfl⟩

theorem unrecorded_throws (record : String → ExecutionRecord)
    (next : Proc AgentContext PUnit) :
    (do
      let executionId ← generateExecutionId
      initializeExecution (record executionId)
      next : Proc AgentContext PUnit).wp (.alone (steered false))
      (fun outcome after _ => (∃ error, outcome = .error error) ∧ after = context) context () := by
  refine Task.wp_alone_bind (Task.wp_mono (generate_steered false _) ?_)
  rintro _ _ - - ⟨⟨id, rfl⟩, rfl⟩
  refine Task.wp_alone_bind (Task.wp_mono (initializeExecution_steered false _) ?_)
  rintro outcome _ - - ⟨rfl, failed⟩
  obtain ⟨error, rfl⟩ : ∃ error, outcome = .error error := by simpa using failed
  exact ⟨⟨error, rfl⟩, rfl⟩

theorem dispatchMember_throws (taskGroupId : String) (params : DispatchGroupParams)
    (task : GroupTask) :
    (AgentContext.dispatchMember taskGroupId params task).wp (.alone (steered false))
      (fun outcome after _ => (∃ error, outcome = .error error) ∧ after = context) context () := by
  have passes {task : Proc AgentContext PUnit} {dispatched : DispatchedTask}
      (throws : task.wp (.alone (steered false)) (fun outcome after _ =>
        (∃ error, outcome = .error error) ∧ after = context) context ()) :
      (do
        task
        pure dispatched : Proc AgentContext DispatchedTask).wp (.alone (steered false))
        (fun outcome after _ => (∃ error, outcome = .error error) ∧ after = context) context () := by
    refine Task.wp_alone_bind (Task.wp_mono throws ?_)
    rintro _ _ - - ⟨⟨error, rfl⟩, rfl⟩
    exact ⟨⟨error, rfl⟩, rfl⟩
  refine Task.wp_alone_bind (Task.wp_mono (generate_steered false _) ?_)
  rintro _ _ - - ⟨⟨messageId, rfl⟩, rfl⟩
  refine Task.wp_alone_bind (Task.wp_alone_get ?_)
  unfold AskAgentCommand.make
  dsimp only
  split
  · refine Task.wp_alone_bind (Task.wp_alone_pure ?_)
    refine Task.wp_alone_bind (Task.wp_alone_await ?_)
    intro _ _ _
    cases params.waitForReply with
    | false =>
        refine Task.wp_alone_bind (Task.wp_alone_pure (passes ?_))
        exact Task.wp_alone_bind (Task.wp_alone_get (unrecorded_throws _ _))
    | true =>
        refine Task.wp_alone_bind (Task.wp_mono (probeGroupMemberOnline_steered false _) ?_)
        rintro _ _ - - ⟨rfl, rfl⟩
        refine passes ?_
        exact Task.wp_alone_bind (Task.wp_alone_get (unrecorded_throws _ _))
  · exact Task.wp_alone_bind (Task.wp_alone_throw ⟨⟨_, rfl⟩, rfl⟩)

theorem dispatchMember_queues (taskGroupId : String) {params : DispatchGroupParams}
    {task : GroupTask} (waits : params.waitForReply = true)
    (filled : hasContent (.string task.content) = true) (named : context.currentAgentType ≠ "") :
    (AgentContext.dispatchMember taskGroupId params task).wp (.alone (steered true))
      (fun outcome after _ => (∃ dispatched, outcome = .ok dispatched) ∧ ∃ reply,
        after.pendingGroupReplies = context.pendingGroupReplies ++ [reply]) context () := by
  refine Task.wp_alone_bind (Task.wp_mono (generate_steered true _) ?_)
  rintro _ _ - - ⟨⟨messageId, rfl⟩, rfl⟩
  refine Task.wp_alone_bind (Task.wp_alone_get ?_)
  unfold AskAgentCommand.make
  dsimp only
  rw [dif_pos filled, waits]
  refine Task.wp_alone_bind (Task.wp_alone_pure ?_)
  refine Task.wp_alone_bind (Task.wp_alone_await ?_)
  intro _ _ _
  refine Task.wp_alone_bind (Task.wp_mono (probeGroupMemberOnline_steered true _) ?_)
  rintro _ _ - - ⟨rfl, rfl⟩
  refine Task.wp_alone_bind (Task.wp_alone_bind (Task.wp_alone_get ?_))
  refine Task.wp_alone_bind (Task.wp_mono (generate_steered true _) ?_)
  rintro _ _ - - ⟨⟨executionId, rfl⟩, rfl⟩
  refine Task.wp_alone_bind (Task.wp_mono (initializeExecution_steered true _) ?_)
  rintro _ _ - - ⟨rfl, rfl⟩
  refine Task.wp_alone_bind (Task.wp_mono (queueUndispatchedMemberFailure_leaves _) ?_)
  rintro _ _ - - ⟨rfl, -, queued⟩
  refine Task.wp_alone_await ?_
  intro _ _ _
  exact Task.wp_alone_pure ⟨⟨_, rfl⟩, queued named⟩

theorem beginGroup_begins (taskGroupId : String) (total : Nat) (wait : Bool) :
    (AgentContext.beginGroup taskGroupId total wait).wp (.alone (steered true))
      (fun outcome after _ => outcome = .ok ⟨⟩ ∧ after = context.begun wait) context () := by
  refine Task.wp_alone_bind (Task.wp_alone_get ?_)
  cases wait with
  | false => exact Task.wp_alone_modify ⟨rfl, rfl⟩
  | true =>
      refine Task.wp_alone_bind (wp_redis_steered ?_)
      exact Task.wp_alone_bind (wp_redis_steered (Task.wp_alone_modify ⟨rfl, rfl⟩))

theorem members_throw (taskGroupId : String) (params : DispatchGroupParams) (task : GroupTask)
    (rest : List GroupTask) :
    ∃ error, ((Task.mapEach (task :: rest)
      (AgentContext.dispatchMember taskGroupId params)).start context).Ends anyAnswer ()
        (.error error, context) () := by
  obtain ⟨_, _, ends, ⟨error, rfl⟩, rfl⟩ := ends_of_steered false
    (dispatchMember_throws taskGroupId params task)
  exact ⟨error, Task.ends_bind_error ends⟩

theorem dispatchGroup_ends {params : DispatchGroupParams} (nonempty : params.tasks ≠ [])
    {fact : AgentContext → Prop}
    (members : ∀ taskGroupId, ∃ error after, ((Task.mapEach params.tasks
      (AgentContext.dispatchMember taskGroupId params)).start
        (context.begun params.waitForReply)).Ends anyAnswer () (.error error, after) () ∧
          fact after) :
    ∃ error after, ((AgentContext.dispatchGroup params).start context).Ends anyAnswer ()
      (.error error, after) () ∧ fact after := by
  have filled : params.tasks.isEmpty = false := by simpa using nonempty
  obtain ⟨_, _, named, ⟨taskGroupId, rfl⟩, rfl⟩ := ends_of_steered true
    (generate_steered true "tg-")
  obtain ⟨_, _, begins, rfl, rfl⟩ := ends_of_steered true
    (beginGroup_begins taskGroupId params.tasks.length params.waitForReply)
  obtain ⟨error, after, ends, reached⟩ := members taskGroupId
  refine ⟨error, after, ?_, reached⟩
  unfold AgentContext.dispatchGroup
  rw [if_neg (by simp [filled])]
  exact Task.ends_bind named (Task.ends_bind begins (Task.ends_bind_error ends))

theorem dispatchGroup_marks {params : DispatchGroupParams}
    (marks : (DispatchCall.ofGroup params).MarksEarly context) :
    ∃ error after, ((AgentContext.dispatchGroup params).start context).Ends anyAnswer ()
      (.error error, after) () ∧ ¬ SameFlags context after := by
  obtain ⟨nonempty, marked⟩ := marks
  by_cases early : params.waitForReply = true ∧ params.MayQueueEarly context
  · obtain ⟨waits, named, first, second, rest, tasks, filled⟩ := early
    refine dispatchGroup_ends nonempty fun taskGroupId => ?_
    rw [tasks, waits]
    have addressed : (context.begun true).currentAgentType ≠ "" := named
    obtain ⟨_, queued, ends, ⟨dispatched, rfl⟩, reply, pending⟩ := ends_of_steered true
      (dispatchMember_queues taskGroupId waits filled addressed)
    obtain ⟨error, throws⟩ := members_throw taskGroupId params second rest
    refine ⟨error, queued, Task.ends_bind ends (Task.ends_bind_error throws), fun same => ?_⟩
    have grown := congrArg List.length (pending.symm.trans same.pendingGroupReplies)
    simp [AgentContext.begun, AgentContext.suspend] at grown
  · have changed : ¬ SameFlags context (context.begun params.waitForReply) := by
      intro same
      cases waits : params.waitForReply with
      | false =>
          rw [waits] at same marked
          have transferred : true = context.permissionTransferred := same.permissionTransferred
          simp [← transferred] at marked
      | true =>
          rw [waits] at same marked early
          rcases marked with unflagged | queues
          · exact unflagged ⟨same.isSuspended.symm, same.suspendedState.symm⟩
          · exact early ⟨rfl, queues⟩
    refine dispatchGroup_ends nonempty fun taskGroupId => ?_
    cases tasks : params.tasks with
    | nil => exact absurd tasks nonempty
    | cons task rest =>
        obtain ⟨error, throws⟩ := members_throw taskGroupId params task rest
        exact ⟨error, _, throws, changed⟩

end

/-- A dispatch that throws or is refused leaves the flags as they were, whatever was answered,
exactly if it does not mark the context before its last member is out. -/
theorem failed_dispatch_restores_iff (context : AgentContext) (call : DispatchCall) :
    call.program.wp (.alone anyAnswer)
        (fun outcome after _ => outcome ≠ .ok true → SameFlags context after) context () ↔
      ¬ call.MarksEarly context := by
  cases call with
  | ofAgent params =>
      refine ⟨fun _ => id, fun _ => ?_⟩
      refine Task.wp_alone_bind (Task.wp_mono (callAgent_restores params) ?_)
      intro outcome after _ _ restored
      cases outcome with
      | error error =>
          intro _
          rw [restored fun _ returned => by cases returned]
          exact .refl _
      | ok result =>
          refine Task.wp_alone_pure fun refused => ?_
          have failed : result.status = AgentState.failed := by simpa using refused
          rw [restored fun returned same => by cases same; exact failed]
          exact .refl _
  | ofGroup params =>
      constructor
      · intro restored marks
        obtain ⟨error, after, ends, changed⟩ := dispatchGroup_marks marks
        exact changed (Task.wp_ends (Task.ends_bind_error ends) restored (by simp))
      · intro spares
        refine Task.wp_alone_bind (Task.wp_mono (dispatchGroup_restores spares) ?_)
        intro outcome after _ _ restored
        cases outcome with
        | error error =>
            intro _
            exact restored.resolve_left fun ⟨_, returned⟩ => nomatch returned
        | ok result => exact Task.wp_alone_pure fun refused => absurd rfl refused

/-! ### A group whose only command cannot be published -/

def reachableStore : RedisStore :=
  ([.sadd (.agentTypeMembers "callee") "worker",
    .set (.workerOnlineLease "worker") (.presence ⟨none, 1, ""⟩) false none] :
      List RedisCommand).foldl (fun store command => (store.exec command).2) .empty

def lostPublish (store : RedisStore) : (op : Op) → op.Reply × RedisStore
  | .redis (.xadd _ _) => (.error "READONLY You can't write against a read only replica.", store)
  | op => redisAnswer store op

def runningContext : AgentContext :=
  { sessionId := "session"
    traceId := "trace"
    currentAgentType := "caller"
    currentMessageId := "msg-caller"
    workerId := "worker-caller"
    currentCommand := .askAgent
      { header := { messageId := "msg-caller", sessionId := "session", traceId := "trace" }
        content := .string "task"
        nonEmpty := by decide } }

def lostGroup : (Except JsError Bool × AgentContext) × RedisStore :=
  let call := DispatchCall.ofGroup { tasks := [⟨"callee", "part", [], []⟩] }
  Prog.run lostPublish (call.program.start runningContext) reachableStore

/-- The group throws, and the run it was called from looks suspended on it. -/
theorem lost_group_looks_suspended :
    lostGroup.1.1.toOption = none ∧ lostGroup.1.2.suspendedState = AgentState.waitingAgent ∧
      ¬ SameFlags runningContext lostGroup.1.2 := by
  have flags : (lostGroup.1.1.toOption, lostGroup.1.2.isSuspended, lostGroup.1.2.suspendedState) =
      (none, true, AgentState.waitingAgent) := by
    decide +kernel
  refine ⟨congrArg Prod.fst flags, congrArg (fun seen => seen.2.2) flags, fun same => ?_⟩
  have suspended : lostGroup.1.2.isSuspended = true := congrArg (fun seen => seen.2.1) flags
  rw [same.isSuspended] at suspended
  cases suspended

end ByFramework
