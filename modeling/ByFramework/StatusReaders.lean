import ByFramework.CancelCore
import ByFramework.Context
import ByFramework.RunnerCore
import ByFramework.WaitSweeperCore

/-! The components that read a stored status, and when they all read the same in it. -/

namespace ByFramework

open Async

def tells (record : ExecutionRecord) : Unit → (op : Op) → op.Reply → Unit → Prop
  | _, .redis (.hgetall key), reply, _ => key = .sessionRegistry record.sessionId →
      reply = .ok [(execField record.executionId, .execution record)]
  | _, .redis (.hget key field), reply, _ => key = .sessionRegistry record.sessionId →
      (field = msgMapField record.messageId → reply = .ok (some (.text record.executionId))) ∧
      (field = execField record.executionId → reply = .ok (some (.execution record)))
  | _, _, _, _ => True

/-- Every value the task returns under such answers satisfies `fact`. -/
@[irreducible] def Returns {α : Type} (serve : Unit → (op : Op) → op.Reply → Unit → Prop)
    (task : Proc Unit α) (fact : α → Prop) : Prop :=
  task.wp (.alone serve) (fun outcome _ _ => ∀ value, outcome = .ok value → fact value) () ()

structure Tracked (record : ExecutionRecord) : Prop where
  sessionId : record.sessionId ≠ ""
  executionId : record.executionId ≠ ""

inductive StatusReader where
  | runner
  | registry
  | taskCancellation
  | sessionCancellation
  | worker
  | callerSweep
  | calleeSweep
deriving DecidableEq, Repr

def StatusReader.FindsOver (status : String) (isOver : Bool) : StatusReader → Prop
  | .runner => ∀ (command : GatewayCommand) (record : ExecutionRecord),
      command.isResume = false → record.status = status →
        GatewayWorker.replaysTerminal command (some record) = isOver
  | .registry => ∃ change : Int → ExecutionRecord → ExecutionRecord,
      (∀ executionId sessionId,
        (markExecutionFinished executionId sessionId status : Proc Unit PUnit) =
          changeExecution executionId sessionId change) ∧
      ∀ now record, (change now record).status = status ∧
        (change now record).finishedAt = if isOver then now else record.finishedAt
  | .taskCancellation => ∀ (fuel : Nat) (params : CancelTaskParams) (record : ExecutionRecord),
      Tracked record → record.status = status → params.sessionId = record.sessionId →
      params.messageId = record.messageId →
        Returns (tells record) (cancelTask fuel params) fun response =>
          ∀ known ∈ response, known.status = if isOver then .alreadyFinished else .cancelRequested
  | .sessionCancellation => ∀ (params : CancelSessionParams) (record : ExecutionRecord),
      Tracked record → record.status = status → params.sessionId = record.sessionId →
        Returns (tells record) (cancelSession params) fun response =>
          response.status = if isOver then .alreadyFinished else .cancelRequested
  | .worker => ∀ (result : AgentTaskResult) (context : AgentContext),
      result.status = status → context.suspendedState ≠ "" →
        applySuspendedStatus result context =
          if isOver then result else { result with status := context.suspendedState }
  | .callerSweep => ∀ (options : SweeperOptions) (due : DueEntry) (record : ExecutionRecord),
      Tracked record → record.status = status →
      due.entry.sessionId = record.sessionId → due.entry.parentMessageId = record.messageId →
        Returns (tells record) (resolveDecoded options due) fun outcome =>
          outcome = .callerTerminal ↔ isOver = true
  | .calleeSweep => ∀ (options : SweeperOptions) (due : DueEntry)
      (caller record : ExecutionRecord), Tracked record → record.status = status →
      due.entry.sessionId = record.sessionId → due.entry.childMessageId = record.messageId →
        Returns (tells record) (triageChild options due caller) fun outcome =>
          if isOver then outcome = .recovered ∨ outcome = .unroutable else outcome ≠ .recovered

def AgentContext.Lockstep (context : AgentContext) : Prop :=
  (context.isSuspended = false ∧ context.suspendedState = "") ∨
  (context.isSuspended = true ∧
    context.suspendedState ∈ [AgentState.waitingAgent, AgentState.waitingUser])

theorem Handler.run_lockstep (handler : Handler) :
    handler.run.Uses (.only fun _ => True) AgentContext.Lockstep := by
  refine handler.run_uses ⟨fun _ _ _ => trivial, fun _ _ _ _ => ⟨trivial, trivial⟩, ?_, ?_, ?_⟩
  · intro before after held notes
    unfold AgentContext.Lockstep at held ⊢
    rw [notes.isSuspended, notes.suspendedState]
    exact held
  · exact fun context state _ waiting => .inr ⟨rfl, waiting⟩
  · exact fun context reply id held _ _ => held

/-- How a status comes into a record: a handler returned, or anything else wrote it. -/
inductive StoredStatus where
  | handled (result : AgentTaskResult) (context : AgentContext) (lockstep : context.Lockstep)
  | other (status : String)

def StoredStatus.text : StoredStatus → String
  | .handled result context _ => (applySuspendedStatus result context).status
  | .other status => status

def StatusReader.FindsSuspended (stored : StoredStatus) (parked : Bool) : StatusReader → Prop
  | .worker => match stored with
      | .handled result context _ =>
          ∀ (worker : GatewayWorker) (command : GatewayCommand) (options : HandleMessageOptions),
            (GatewayWorker.replyCommand command options).isSome →
              ((worker.reportResult command options result).Uses (.only fun _ => False)
                (fun run => run.context = context) ↔ parked = true)
      | .other _ => True
  | .callerSweep => ∀ (options : SweeperOptions) (due : DueEntry) (record : ExecutionRecord),
      Tracked record → record.status = stored.text →
      due.entry.sessionId = record.sessionId → due.entry.parentMessageId = record.messageId →
      due.entry.childMessageId = "" →
        Returns (tells record) (resolveDecoded options due) fun outcome =>
          outcome = .askUserSkipped ↔ parked = true
  | .calleeSweep => ∀ (options : SweeperOptions) (due : DueEntry)
      (caller record : ExecutionRecord), Tracked record → record.status = stored.text →
      due.entry.sessionId = record.sessionId → due.entry.childMessageId = record.messageId →
        Returns (tells record) (triageChild options due caller) fun outcome =>
          outcome = .childWaiting ↔ parked = true
  | _ => True

/-- One answer to each question serves every reader. -/
def StoredStatus.ReadAlike (stored : StoredStatus) : Prop :=
  (∃ isOver, ∀ reader : StatusReader, reader.FindsOver stored.text isOver) ∧
  (∃ parked, ∀ reader : StatusReader, reader.FindsSuspended stored parked)

def Undecorated (status : String) : Prop :=
  isTerminalState (baseStatus status) = true → isTerminalState status = true

/-- The condition on a status: a handler that did not suspend names no waiting state either. -/
def StoredStatus.Plain : StoredStatus → Prop
  | .handled result context _ => context.isSuspended = false →
      Undecorated result.status ∧ isSuspendedState (baseStatus result.status) = false
  | .other status => Undecorated status

/-! ### What each reader finds -/

section Returns

variable {α β : Type} {serve : Unit → (op : Op) → op.Reply → Unit → Prop} {fact : α → Prop}

theorem returns_pure {value : α} (holds : fact value) : Returns serve (pure value) fact := by
  unfold Returns
  refine Task.wp_alone_pure fun returned same => ?_
  cases same
  exact holds

theorem returns_any {task : Proc Unit α} : Returns serve task fun _ => True := by
  unfold Returns
  exact Prog.wp_any fun _ _ _ _ => trivial

theorem returns_any_bind {task : Proc Unit β} {next : β → Proc Unit α}
    (rest : ∀ value, Returns serve (next value) fact) : Returns serve (task >>= next) fact := by
  unfold Returns at rest ⊢
  exact Task.wp_alone_any_bind (fun _ _ _ _ same => by cases same) fun value _ _ => rest value

theorem returns_bind {task : Proc Unit β} {next : β → Proc Unit α} {found : β → Prop}
    (returns : Returns serve task found)
    (rest : ∀ value, found value → Returns serve (next value) fact) :
    Returns serve (task >>= next) fact := by
  unfold Returns at returns rest ⊢
  refine Task.wp_alone_bind (Task.wp_mono returns ?_)
  intro outcome _ _ _ holds
  cases outcome with
  | ok value => exact rest value (holds value rfl)
  | error error => exact fun returned same => by cases same

theorem returns_redis_bind {command : RedisCommand} {next : command.Reply → Proc Unit α}
    {reply : command.Reply}
    (told : ∀ answer, serve () (.redis command) answer () → answer = .ok reply)
    (rest : Returns serve (next reply) fact) : Returns serve (redis command >>= next) fact := by
  unfold Returns at rest ⊢
  refine Task.wp_alone_bind (wp_redis ?_)
  rintro ⟨⟩ - -
  refine ⟨trivial, fun answer _ served _ _ _ _ => ?_⟩
  rw [told answer served]
  exact rest

end Returns

theorem returns_getExecutionByMessageId {record : ExecutionRecord} (tracked : Tracked record)
    {messageId sessionId : String} (message : messageId = record.messageId)
    (session : sessionId = record.sessionId) :
    Returns (tells record) (getExecutionByMessageId messageId sessionId) (· = some record) := by
  subst message session
  unfold getExecutionByMessageId
  rw [if_neg tracked.sessionId]
  refine returns_redis_bind (fun _ told => (told rfl).1 rfl) ?_
  change Returns _ (if record.executionId = "" then _ else _) _
  split
  · exact absurd ‹_› tracked.executionId
  · unfold getExecution
    rw [if_neg tracked.sessionId]
    exact returns_redis_bind (fun _ told => (told rfl).2 rfl) (returns_pure rfl)

theorem returns_getAllSessionExecutions (record : ExecutionRecord) :
    Returns (tells record) (getAllSessionExecutions record.sessionId) (· = [record]) := by
  refine returns_redis_bind (fun _ told => told rfl) (returns_pure ?_)
  have field : isExecField (execField record.executionId) = true := by
    simp [isExecField, execField]
  simp [field]

theorem collectSubtree_mem {allExecutions : List ExecutionRecord} {fuel : Nat}
    {queue subtree : List ExecutionRecord}
    (listed : ∀ execution ∈ queue, execution ∈ allExecutions)
    (collected : collectSubtree allExecutions fuel queue = some subtree) :
    (∀ execution ∈ subtree, execution ∈ allExecutions) ∧ (queue ≠ [] → subtree ≠ []) := by
  induction fuel generalizing queue subtree with
  | zero =>
      cases queue with
      | nil =>
          cases collected
          exact ⟨listed, fun nonempty => nonempty⟩
      | cons current queue => cases collected
  | succ fuel ih =>
      cases queue with
      | nil =>
          cases collected
          exact ⟨listed, fun nonempty => nonempty⟩
      | cons current queue =>
          simp only [collectSubtree, Option.map_eq_some_iff] at collected
          obtain ⟨rest, collected, rfl⟩ := collected
          have known : ∀ execution ∈ queue ++ childrenOf allExecutions current.messageId,
              execution ∈ allExecutions := by
            intro execution queued
            rcases List.mem_append.mp queued with queued | child
            · exact listed execution (by simp [queued])
            · unfold childrenOf at child
              split at child
              · cases child
              · exact List.mem_of_mem_filter child
          obtain ⟨inside, -⟩ := ih known collected
          constructor
          · intro execution member
            rcases List.mem_cons.mp member with rfl | member
            · exact listed _ (by simp)
            · exact inside execution member
          · exact fun _ => List.cons_ne_nil _ _

theorem toCancel_isEmpty {executions : List ExecutionRecord} {status : String}
    (same : ∀ execution ∈ executions, execution.status = status) (nonempty : executions ≠ []) :
    (executions.filter fun execution => !isTerminalState execution.status).isEmpty =
      isTerminalState status := by
  have filtered : (executions.filter fun execution => !isTerminalState execution.status) =
      executions.filter fun _ => !isTerminalState status :=
    List.filter_congr fun execution member => by rw [same execution member]
  rw [filtered]
  cases isOver : isTerminalState status with
  | true => simp
  | false => simpa using nonempty

theorem cancelTask_finds (status : String) :
    StatusReader.FindsOver status (isTerminalState status) .taskCancellation := by
  intro fuel params record tracked stored session message
  unfold cancelTask
  rw [session]
  refine returns_bind (returns_getAllSessionExecutions record) ?_
  rintro _ rfl
  simp only [List.find?, message, decide_true, ne_eq, not_true_eq_false, if_false]
  generalize collected : collectSubtree [record] fuel [record] = found
  cases found with
  | none => exact returns_pure fun known none => by cases none
  | some subtree =>
      obtain ⟨inside, nonempty⟩ := collectSubtree_mem (fun _ member => member) collected
      have same : ∀ execution ∈ subtree, execution.status = status := by
        intro execution member
        rw [List.mem_singleton.mp (inside execution member), stored]
      refine returns_any_bind fun _ => ?_
      rw [toCancel_isEmpty same (nonempty (by simp))]
      split
      · refine returns_pure fun known answered => ?_
        cases answered
        rfl
      · refine returns_any_bind fun _ => returns_pure fun known answered => ?_
        cases answered
        rfl

theorem cancelSession_finds (status : String) :
    StatusReader.FindsOver status (isTerminalState status) .sessionCancellation := by
  intro params record tracked stored session
  unfold cancelSession
  rw [session]
  refine returns_bind (returns_getAllSessionExecutions record) ?_
  rintro _ rfl
  dsimp only [List.isEmpty_cons]
  have same : ∀ execution ∈ [record], execution.status = status := by simpa using stored
  refine returns_any_bind fun _ => ?_
  rw [toCancel_isEmpty same (by simp)]
  split
  · exact returns_pure rfl
  · exact returns_any_bind fun _ => returns_pure rfl

theorem handleMessage_finds (status : String) :
    StatusReader.FindsOver status (isTerminalState status) .worker := by
  intro result context same suspended
  subst same
  unfold applySuspendedStatus
  simp only [suspended, false_or]

section Sweep

variable {serve : Unit → (op : Op) → op.Reply → Unit → Prop} {fact : SweepOutcome → Prop}

theorem returns_dropEntry {due : DueEntry} {outcome : SweepOutcome} (holds : fact outcome) :
    Returns serve (dropEntry due outcome) fact :=
  returns_any_bind fun _ => returns_pure holds

theorem returns_synthesizeFailure {options : SweeperOptions} {due : DueEntry}
    {caller : ExecutionRecord} {child : Option ExecutionRecord}
    {errorCode message status : String} {outcome : SweepOutcome} (holds : fact outcome)
    (unroutable : fact .unroutable) :
    Returns serve (synthesizeFailure options due caller child errorCode message status outcome)
      fact := by
  refine returns_any_bind fun emitted => returns_pure ?_
  split
  · exact holds
  · exact unroutable

theorem returns_recoverFinishedChild {options : SweeperOptions} {due : DueEntry}
    {caller child : ExecutionRecord} (holds : fact .recovered) (unroutable : fact .unroutable) :
    Returns serve (recoverFinishedChild options due caller child) fact := by
  refine returns_any_bind fun stored => ?_
  cases stored with
  | none => exact returns_synthesizeFailure holds unroutable
  | some stored => exact returns_any_bind fun _ => returns_pure holds

theorem returns_triage {options : SweeperOptions} {due : DueEntry} {caller : ExecutionRecord}
    {known : Option ExecutionRecord → Prop}
    (absent : known none → fact .neverStarted ∧ fact .unroutable)
    (terminal : ∀ child, known (some child) → isTerminalState (baseStatus child.status) = true →
      fact .recovered ∧ fact .unroutable)
    (suspended : ∀ child, known (some child) →
      isTerminalState (baseStatus child.status) = false →
      isSuspendedState (baseStatus child.status) = true → fact .childWaiting)
    (working : ∀ child, known (some child) → isTerminalState (baseStatus child.status) = false →
      isSuspendedState (baseStatus child.status) = false →
      ∀ outcome ∈ [SweepOutcome.neverStarted, .childAlive, .timedOut, .workerLost, .unroutable],
        fact outcome)
    (read : Returns serve (getExecutionByMessageId due.entry.childMessageId due.entry.sessionId)
      known) :
    Returns serve (triageChild options due caller) fact := by
  refine returns_bind read ?_
  intro found holds
  cases found with
  | none => exact returns_synthesizeFailure (absent holds).1 (absent holds).2
  | some child =>
      dsimp only
      rcases Bool.eq_false_or_eq_true (isTerminalState (baseStatus child.status)) with isOver | live
      · rw [if_pos isOver]
        have outcomes := terminal child holds isOver
        exact returns_recoverFinishedChild outcomes.1 outcomes.2
      rw [if_neg (Bool.eq_false_iff.mp live)]
      rcases Bool.eq_false_or_eq_true (isSuspendedState (baseStatus child.status))
        with parked | moving
      · rw [if_pos parked]
        exact returns_any_bind fun _ => returns_pure (suspended child holds live parked)
      rw [if_neg (Bool.eq_false_iff.mp moving)]
      have outcomes := working child holds live moving
      have failing (code message : String) (outcome : SweepOutcome)
          (listed : outcome ∈ [SweepOutcome.neverStarted, .childAlive, .timedOut, .workerLost,
            .unroutable]) :
          Returns serve (synthesizeFailure options due caller (some child) code message ""
            outcome) fact :=
        returns_synthesizeFailure (outcomes _ listed) (outcomes _ (by simp))
      split
      · exact failing _ _ _ (by simp)
      · refine returns_any_bind fun online => ?_
        cases online with
        | false => exact failing _ _ _ (by simp)
        | true =>
            refine returns_any_bind fun limitMs => returns_any_bind fun now => ?_
            split
            · exact returns_any_bind fun _ => returns_pure (outcomes _ (by simp))
            · refine returns_bind (failing _ _ _ (by simp)) fun outcome holds => ?_
              exact returns_any_bind fun _ => returns_pure holds

theorem returns_groupBlocksCompensation {due : DueEntry} {found : Option SweepOutcome → Prop}
    (blocked : ∀ outcome ∈ [SweepOutcome.groupGone, .groupAborted, .groupAlreadyJoined],
      found (some outcome))
    (unblocked : found none) : Returns serve (groupBlocksCompensation due) found := by
  have dropped (outcome : SweepOutcome)
      (listed : outcome ∈ [SweepOutcome.groupGone, .groupAborted, .groupAlreadyJoined]) :
      Returns serve (do
        let outcome ← dropEntry due outcome
        pure (some outcome)) found := by
    have gone : Returns serve (dropEntry due outcome) (· = outcome) := returns_dropEntry rfl
    refine returns_bind gone ?_
    rintro _ rfl
    exact returns_pure (blocked _ listed)
  refine returns_any_bind fun total => ?_
  split
  · exact dropped _ (by simp)
  · refine returns_any_bind fun aborted => ?_
    split
    · exact dropped _ (by simp)
    · refine returns_any_bind fun recorded => ?_
      split
      · exact dropped _ (by simp)
      · exact returns_pure unblocked

def waitingOutcomes : List SweepOutcome :=
  [.groupGone, .groupAborted, .groupAlreadyJoined, .childWaiting, .childAlive, .recovered,
    .workerLost, .neverStarted, .timedOut, .unroutable]

theorem returns_resolve {options : SweeperOptions} {due : DueEntry} {caller : ExecutionRecord}
    (terminal : isTerminalState (baseStatus caller.status) = true → fact .callerTerminal)
    (running : isTerminalState (baseStatus caller.status) = false →
      isSuspendedState (baseStatus caller.status) = false →
      fact .callerLost ∧ fact .callerNotSuspended)
    (asking : isTerminalState (baseStatus caller.status) = false →
      isSuspendedState (baseStatus caller.status) = true →
      due.entry.childMessageId = "" → fact .askUserSkipped)
    (waiting : isTerminalState (baseStatus caller.status) = false →
      isSuspendedState (baseStatus caller.status) = true →
      due.entry.childMessageId ≠ "" → ∀ outcome ∈ waitingOutcomes, fact outcome)
    (read : Returns serve (getExecutionByMessageId due.entry.parentMessageId due.entry.sessionId)
      (· = some caller)) :
    Returns serve (resolveDecoded options due) fact := by
  refine returns_bind read ?_
  rintro _ rfl
  dsimp only
  rcases Bool.eq_false_or_eq_true (isTerminalState (baseStatus caller.status)) with isOver | live
  · rw [if_pos isOver]
    exact returns_dropEntry (terminal isOver)
  rw [if_neg (Bool.eq_false_iff.mp live)]
  rcases Bool.eq_false_or_eq_true (isSuspendedState (baseStatus caller.status))
    with parked | moving
  · rw [if_neg (by simp [parked])]
    by_cases asks : due.entry.childMessageId = ""
    · rw [if_pos asks]
      exact returns_pure (asking live parked asks)
    rw [if_neg asks]
    have outcomes := waiting live parked asks
    have triaged : Returns serve (triageChild options due caller) fact := by
      have read : Returns serve (getExecutionByMessageId due.entry.childMessageId
          due.entry.sessionId) fun _ => True := returns_any
      refine returns_triage ?_ ?_ ?_ ?_ read
      · exact fun _ => ⟨outcomes _ (by decide), outcomes _ (by decide)⟩
      · exact fun _ _ _ => ⟨outcomes _ (by decide), outcomes _ (by decide)⟩
      · exact fun _ _ _ _ => outcomes _ (by decide)
      · intro child _ _ _ outcome listed
        refine outcomes outcome ?_
        revert listed
        cases outcome <;> decide
    have grouped : Returns serve (groupBlocksCompensation due) fun blocked =>
        ∀ outcome ∈ blocked, fact outcome := by
      refine returns_groupBlocksCompensation ?_ fun _ none => by cases none
      intro outcome listed _ same
      cases same
      refine outcomes outcome ?_
      revert listed
      cases outcome <;> decide
    split
    · exact triaged
    · refine returns_bind grouped fun blocked holds => ?_
      cases blocked with
      | none => exact triaged
      | some outcome => exact returns_pure (holds outcome rfl)
  · rw [if_pos (by simp [moving])]
    obtain ⟨lost, unsuspended⟩ := running live moving
    have renewed : Returns serve (do
        extendDeadline due
        pure .callerNotSuspended) fact := returns_any_bind fun _ => returns_pure unsuspended
    unfold resolveUnsuspendedCaller
    dsimp only
    split
    · exact renewed
    · refine returns_any_bind fun online => ?_
      cases online with
      | true => exact renewed
      | false => exact returns_dropEntry lost

end Sweep

theorem baseStatus_terminal {status : String} (isOver : isTerminalState status = true) :
    baseStatus status = status := by
  simp only [isTerminalState, terminalStates, List.mem_cons, List.not_mem_nil, or_false,
    decide_eq_true_eq] at isOver
  rcases isOver with rfl | rfl | rfl <;> decide

theorem sweep_finds_over (status : String) :
    StatusReader.FindsOver status (isTerminalState (baseStatus status)) .callerSweep := by
  intro options due record tracked stored session message
  subst stored
  have read := returns_getExecutionByMessageId tracked message session
  refine returns_resolve ?_ ?_ ?_ ?_ read
  · exact fun isOver => iff_of_true rfl isOver
  · intro live _
    rw [live]
    exact ⟨by decide, by decide⟩
  · intro live _ _
    rw [live]
    decide
  · intro live _ _ outcome listed
    rw [live]
    revert listed
    cases outcome <;> decide

theorem sweep_finds_callee_over (status : String) :
    StatusReader.FindsOver status (isTerminalState (baseStatus status)) .calleeSweep := by
  intro options due caller record tracked stored session message
  subst stored
  have read := returns_getExecutionByMessageId tracked message session
  refine returns_triage (fun none => by cases none) ?_ ?_ ?_ read
  · rintro _ ⟨⟩ isOver
    rw [isOver]
    exact ⟨.inl rfl, .inr rfl⟩
  · rintro _ ⟨⟩ live _
    rw [live]
    decide
  · rintro _ ⟨⟩ live _ outcome listed
    rw [live]
    revert listed
    cases outcome <;> decide

theorem sweep_finds_suspended (stored : StoredStatus) :
    StatusReader.FindsSuspended stored (isSuspendedState (baseStatus stored.text))
      .callerSweep := by
  intro options due record tracked status session message asks
  rw [← status]
  have read := returns_getExecutionByMessageId tracked message session
  refine returns_resolve ?_ ?_ ?_ ?_ read
  · intro isOver
    rw [not_suspended_of_terminal isOver]
    decide
  · intro _ moving
    rw [moving]
    exact ⟨by decide, by decide⟩
  · exact fun _ parked _ => iff_of_true rfl parked
  · exact fun _ _ called => absurd asks called

theorem sweep_finds_callee_suspended (stored : StoredStatus) :
    StatusReader.FindsSuspended stored (isSuspendedState (baseStatus stored.text))
      .calleeSweep := by
  intro options due caller record tracked status session message
  rw [← status]
  have read := returns_getExecutionByMessageId tracked message session
  refine returns_triage (fun none => by cases none) ?_ ?_ ?_ read
  · rintro _ ⟨⟩ isOver
    rw [not_suspended_of_terminal isOver]
    exact ⟨by decide, by decide⟩
  · exact fun _ known _ parked => by
      cases known
      exact iff_of_true rfl parked
  · rintro _ ⟨⟩ _ moving outcome listed
    rw [moving]
    revert listed
    cases outcome <;> decide

theorem uses_of_get_bind {σ α : Type} {contract : Contract effects} {inv : σ → Prop}
    {next : σ → Proc σ α} (uses : (get >>= next).Uses contract inv) :
    ∀ memory, inv memory → ((next memory).start memory).Uses contract fun outcome =>
      inv outcome.2 :=
  uses

theorem quiet_of_silent {worker : GatewayWorker} {reply : GatewayCommand}
    {result : AgentTaskResult} {quiet : Bool} {run : MessageRun}
    {post : Except JsError AgentTaskResult × MessageRun → Prop}
    (silent : (Task.start (do
      Task.when (!quiet) (worker.returnToCaller reply result)
      pure result) run).Uses (.only fun _ => False) post) : quiet = true := by
  cases quiet with
  | true => rfl
  | false => exact silent.1.elim

theorem handleMessage_finds_suspended {result : AgentTaskResult} {context : AgentContext}
    (lockstep : context.Lockstep) :
    StatusReader.FindsSuspended (.handled result context lockstep)
      (context.isSuspended && !isTerminalState result.status) .worker := by
  intro worker command options owed
  unfold GatewayWorker.reportResult
  generalize GatewayWorker.replyCommand command options = reply at owed ⊢
  cases reply with
  | none => cases owed
  | some reply =>
      constructor
      · intro silent
        have issued := uses_of_get_bind silent { context := context } rfl
        dsimp only at issued
        exact quiet_of_silent issued
      · intro parked
        refine Task.uses_get_bind fun run same => ?_
        subst same
        dsimp only
        rw [parked]
        exact Task.uses_bind (Task.uses_pure _) fun _ => Task.uses_pure _

/-! ### All readers together -/

def StatusReader.isOver (status : String) : StatusReader → Bool
  | .callerSweep | .calleeSweep => isTerminalState (baseStatus status)
  | _ => isTerminalState status

theorem StatusReader.finds_over (status : String) (reader : StatusReader) :
    reader.FindsOver status (reader.isOver status) := by
  cases reader with
  | runner =>
      intro command record fresh same
      subst same
      simp [GatewayWorker.replaysTerminal, fresh, isOver]
  | registry =>
      refine ⟨_, fun _ _ => rfl, fun now record => ?_⟩
      change _ ∧ _ = if isTerminalState status = true then now else record.finishedAt
      cases isTerminalState status <;> simp [ExecutionRecord.enter]
  | taskCancellation => exact cancelTask_finds status
  | sessionCancellation => exact cancelSession_finds status
  | worker => exact handleMessage_finds status
  | callerSweep => exact sweep_finds_over status
  | calleeSweep => exact sweep_finds_callee_over status

/-! Two readers can be asked for their answer: the runner's guard, and a sweep that is run. -/

/-- An execution of the given status, as it is found by message `m` of session `s`. -/
def probeRecord (status : String) : ExecutionRecord :=
  { executionId := "e", messageId := "m", sessionId := "s", traceId := "t", status := status }

def probeAsk : AskAgentCommand where
  header := { messageId := "m", sessionId := "s", traceId := "t", sourceAgentType := "a" }
  content := .string "go"
  nonEmpty := by decide

def probeDue : DueEntry :=
  { indexKey := .waitIndex 0
    member := ""
    deadlineMs := 0
    entry := ⟨"s", "m", "", ""⟩ }

def probeOptions : SweeperOptions :=
  { workerId := "w", enabled := true, searchFuel := 0 }

theorem probeRecord_tracked (status : String) : Tracked (probeRecord status) := by
  constructor
  · change "s" ≠ ""
    decide
  · change "e" ≠ ""
    decide

theorem probe_found (status : String) :
    Prog.Ends (tells (probeRecord status))
      (Task.start (getExecutionByMessageId "m" "s" : Proc Unit _) ()) ()
      (.ok (some (probeRecord status)), ()) () := by
  have mapped : tells (probeRecord status) ()
      (.redis (.hget (.sessionRegistry "s") (msgMapField "m"))) (.ok (some (.text "e"))) () :=
    fun _ => ⟨fun _ => rfl, fun same => by simp [msgMapField, execField, probeRecord] at same⟩
  have read : tells (probeRecord status) ()
      (.redis (.hget (.sessionRegistry "s") (execField "e")))
      (.ok (some (.execution (probeRecord status)))) () :=
    fun _ => ⟨fun same => by simp [msgMapField, execField, probeRecord] at same, fun _ => rfl⟩
  have loaded : Prog.Ends (tells (probeRecord status))
      (Task.start (getExecution "e" "s" : Proc Unit _) ()) ()
      (.ok (some (probeRecord status)), ()) () := by
    unfold getExecution
    rw [if_neg (by decide), start_redis_bind]
    exact .call read .done
  unfold getExecutionByMessageId
  rw [if_neg (by decide), start_redis_bind]
  refine .call mapped ?_
  change Prog.Ends _ (Task.start (if "e" = "" then _ else _) ()) _ _ _
  rw [if_neg (by decide)]
  exact loaded

theorem probe_answer {status : String} {outcome : SweepOutcome} {fact : SweepOutcome → Prop}
    (ends : Prog.Ends (tells (probeRecord status))
      (Task.start (resolveDecoded probeOptions probeDue : Proc Unit _) ()) () (.ok outcome, ()) ())
    (returns : Returns (tells (probeRecord status)) (resolveDecoded probeOptions probeDue) fact) :
    fact outcome := by
  unfold Returns at returns
  exact Task.wp_ends ends returns outcome rfl

theorem runner_answer {status : String} {isOver : Bool}
    (finds : StatusReader.FindsOver status isOver .runner) : isOver = isTerminalState status := by
  exact (finds (.askAgent probeAsk) (probeRecord status) rfl rfl).symm

theorem callerSweep_answer {status : String} {isOver : Bool}
    (finds : StatusReader.FindsOver status isOver .callerSweep)
    (terminal : isTerminalState (baseStatus status) = true) : isOver = true := by
  have removed : tells (probeRecord status) () (.redis (.zrem (.waitIndex 0) "")) (.ok 1) () :=
    trivial
  have ends : Prog.Ends (tells (probeRecord status))
      (Task.start (resolveDecoded probeOptions probeDue : Proc Unit _) ()) ()
      (.ok .callerTerminal, ()) () := by
    refine Task.ends_bind (probe_found status) ?_
    dsimp only [probeRecord]
    rw [if_pos terminal, dropEntry, start_redis_bind]
    exact .call removed .done
  have answered := finds probeOptions probeDue (probeRecord status) (probeRecord_tracked status)
    rfl rfl rfl
  exact (probe_answer ends answered).mp rfl

theorem callerSweep_parked {stored : StoredStatus} {parked : Bool}
    (finds : StatusReader.FindsSuspended stored parked .callerSweep)
    (suspended : isSuspendedState (baseStatus stored.text) = true) : parked = true := by
  have live : isTerminalState (baseStatus stored.text) ≠ true := by
    intro isOver
    rw [not_suspended_of_terminal isOver] at suspended
    cases suspended
  have ends : Prog.Ends (tells (probeRecord stored.text))
      (Task.start (resolveDecoded probeOptions probeDue : Proc Unit _) ()) ()
      (.ok .askUserSkipped, ()) () := by
    refine Task.ends_bind (probe_found stored.text) ?_
    dsimp only [probeRecord]
    rw [if_neg live, if_neg (by simp [suspended]), if_pos (by decide)]
    exact .done
  have answered := finds probeOptions probeDue (probeRecord stored.text)
    (probeRecord_tracked stored.text) rfl rfl rfl rfl
  exact (probe_answer ends answered).mp rfl

theorem worker_answer {result : AgentTaskResult} {context : AgentContext}
    {lockstep : context.Lockstep} {parked : Bool}
    (finds : StatusReader.FindsSuspended (.handled result context lockstep) parked .worker) :
    parked = (context.isSuspended && !isTerminalState result.status) := by
  let worker : GatewayWorker := ⟨"w", false, fun _ _ => .returns (.json .null)⟩
  have owed : (GatewayWorker.replyCommand (.askAgent probeAsk) {}).isSome := by decide
  have asked := finds worker (.askAgent probeAsk) {} owed
  have known : StatusReader.FindsSuspended (.handled result context lockstep) _ .worker :=
    handleMessage_finds_suspended lockstep
  exact Bool.eq_iff_iff.mpr (asked.symm.trans (known worker (.askAgent probeAsk) {} owed))

theorem undecorated_of_suspended {status : String}
    (suspended : status ∈ [AgentState.waitingAgent, AgentState.waitingUser]) :
    Undecorated status ∧ isSuspendedState (baseStatus status) = true := by
  simp only [List.mem_cons, List.not_mem_nil, or_false] at suspended
  rcases suspended with rfl | rfl
  · exact ⟨by unfold Undecorated; decide, by decide⟩
  · exact ⟨by unfold Undecorated; decide, by decide⟩

theorem applySuspendedStatus_status (result : AgentTaskResult) {context : AgentContext}
    (lockstep : context.Lockstep) :
    (context.isSuspended = false ∧ (applySuspendedStatus result context).status = result.status) ∨
    (context.isSuspended = true ∧ isTerminalState result.status = true ∧
      (applySuspendedStatus result context).status = result.status) ∨
    (context.isSuspended = true ∧ isTerminalState result.status = false ∧
      (applySuspendedStatus result context).status ∈
        [AgentState.waitingAgent, AgentState.waitingUser]) := by
  unfold applySuspendedStatus
  rcases lockstep with ⟨running, stateless⟩ | ⟨suspended, state⟩
  · refine .inl ⟨running, ?_⟩
    rw [if_pos (.inl stateless)]
  · have stated : context.suspendedState ≠ "" := by
      intro none
      rw [none] at state
      revert state
      decide
    refine .inr ?_
    rcases Bool.eq_false_or_eq_true (isTerminalState result.status) with isOver | live
    · refine .inl ⟨suspended, isOver, ?_⟩
      rw [if_pos (.inr isOver)]
    · refine .inr ⟨suspended, live, ?_⟩
      rw [if_neg (by simp [stated, live])]
      exact state

theorem plain_of_readAlike {stored : StoredStatus} (alike : stored.ReadAlike) : stored.Plain := by
  obtain ⟨⟨isOver, finds⟩, parked, suspends⟩ := alike
  have undecorated : Undecorated stored.text := by
    intro terminal
    rw [← runner_answer (finds .runner)]
    exact callerSweep_answer (finds .callerSweep) terminal
  cases stored with
  | other status => exact undecorated
  | handled result context lockstep =>
      intro running
      rcases applySuspendedStatus_status result lockstep with
        ⟨-, kept⟩ | ⟨suspended, -⟩ | ⟨suspended, -⟩
      · change Undecorated (applySuspendedStatus result context).status at undecorated
        rw [kept] at undecorated
        refine ⟨undecorated, ?_⟩
        rw [← Bool.not_eq_true]
        intro waiting
        have found : parked = true := by
          refine callerSweep_parked (suspends .callerSweep) ?_
          rw [StoredStatus.text, kept]
          exact waiting
        rw [worker_answer (suspends .worker), running] at found
        cases found
      · rw [running] at suspended
        cases suspended
      · rw [running] at suspended
        cases suspended

theorem plain_text {result : AgentTaskResult} {context : AgentContext}
    {lockstep : context.Lockstep} (plain : (StoredStatus.handled result context lockstep).Plain) :
    Undecorated (applySuspendedStatus result context).status ∧
      isSuspendedState (baseStatus (applySuspendedStatus result context).status) =
        (context.isSuspended && !isTerminalState result.status) := by
  rcases applySuspendedStatus_status result lockstep with
    ⟨running, kept⟩ | ⟨suspended, isOver, kept⟩ | ⟨suspended, live, waiting⟩
  · rw [kept, running]
    exact plain running
  · rw [kept, suspended, isOver, baseStatus_terminal isOver]
    exact ⟨fun _ => isOver, not_suspended_of_terminal isOver⟩
  · rw [suspended, live]
    exact undecorated_of_suspended waiting

theorem StatusReader.finds_bare {status : String} (undecorated : Undecorated status)
    (reader : StatusReader) : reader.FindsOver status (isTerminalState status) := by
  have stripped : isTerminalState (baseStatus status) = isTerminalState status := by
    rw [Bool.eq_iff_iff]
    refine ⟨undecorated, fun isOver => ?_⟩
    rw [baseStatus_terminal isOver]
    exact isOver
  have same : reader.isOver status = isTerminalState status := by
    cases reader with
    | callerSweep => exact stripped
    | calleeSweep => exact stripped
    | _ => rfl
  have found := reader.finds_over status
  rwa [same] at found

theorem StatusReader.finds_plain {stored : StoredStatus} (plain : stored.Plain)
    (reader : StatusReader) :
    reader.FindsSuspended stored (isSuspendedState (baseStatus stored.text)) := by
  cases reader with
  | worker =>
      cases stored with
      | other status => trivial
      | handled result context lockstep =>
          have found : StatusReader.FindsSuspended (.handled result context lockstep) _ .worker :=
            handleMessage_finds_suspended lockstep
          rwa [← (plain_text plain).2] at found
  | callerSweep => exact sweep_finds_suspended stored
  | calleeSweep => exact sweep_finds_callee_suspended stored
  | _ => trivial

theorem statuses_read_alike (stored : StoredStatus) : stored.ReadAlike ↔ stored.Plain := by
  refine ⟨plain_of_readAlike, fun plain => ?_⟩
  have undecorated : Undecorated stored.text := by
    cases stored with
    | other status => exact plain
    | handled result context lockstep => exact (plain_text plain).1
  exact ⟨⟨_, StatusReader.finds_bare undecorated⟩, ⟨_, StatusReader.finds_plain plain⟩⟩

def probeContext : AgentContext :=
  { sessionId := "s"
    traceId := "t"
    currentAgentType := "b"
    currentMessageId := "m"
    currentCommand := .askAgent probeAsk
    workerId := "w" }

/-- An aborted group's reply is over for the sweep only; a run that names a waiting state without
waiting has reported its result, and is suspended for the sweep only. -/
theorem decorated_status_read_apart :
    ¬ (StoredStatus.other groupAbortedResult.status).ReadAlike ∧
    ¬ (StoredStatus.handled { status := AgentState.waitingUser } probeContext
      (.inl ⟨rfl, rfl⟩)).ReadAlike := by
  constructor
  · intro alike
    have undecorated : Undecorated groupAbortedResult.status := plain_of_readAlike alike
    revert undecorated
    unfold Undecorated
    decide
  · intro alike
    have running := (plain_of_readAlike alike rfl).2
    revert running
    decide

end ByFramework
