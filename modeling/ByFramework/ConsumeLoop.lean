import ByFramework.DeliveryCore
import ByFramework.Heartbeat

/-! The loops of a runner pass on what they were handed, and no more. -/

namespace ByFramework

open Async

def StreamMessage.place (message : StreamMessage) : Key × Nat := (message.streamName, message.msgId)

def due (messages : List StreamMessage) (place : Key × Nat) : Nat :=
  (messages.map StreamMessage.place).count place

@[simp] theorem due_nil (place : Key × Nat) : due [] place = 0 := rfl

theorem due_append (first second : List StreamMessage) (place : Key × Nat) :
    due (first ++ second) place = due first place + due second place := by
  simp [due]

theorem due_cons (message : StreamMessage) (rest : List StreamMessage) (place : Key × Nat) :
    due (message :: rest) place = due rest place + if message.place = place then 1 else 0 := by
  simp [due, List.count_cons]

theorem parseBatch_due (key : Key) (entries : List (Nat × Value)) (place : Key × Nat) :
    due (parseBatch key entries) place ≤ (entries.map fun entry => (key, entry.1)).count place := by
  induction entries with
  | nil => exact Nat.le_refl _
  | cons entry rest ih =>
      have passed : due (parseBatch key (entry :: rest)) place ≤
          due (parseBatch key rest) place + if (key, entry.1) = place then 1 else 0 := by
        rcases entry with ⟨msgId, value⟩
        cases value with
        | command command =>
            have added := due_cons ⟨key, msgId, command⟩ (parseBatch key rest) place
            exact added.le
        | _ => exact Nat.le_add_right _ _
      simp only [List.map_cons, List.count_cons, beq_iff_eq]
      omega

def Owed (before : DeliveryMemo) (messages : List StreamMessage) (after : DeliveryMemo) : Prop :=
  ∀ place, before.credit place + due messages place ≤ after.credit place

theorem Owed.refl (memo : DeliveryMemo) : Owed memo [] memo := fun place => by simp

theorem Owed.trans {first middle last : DeliveryMemo} {before after : List StreamMessage}
    (left : Owed first before middle) (right : Owed middle after last) :
    Owed first (before ++ after) last := by
  intro place
  have early := left place
  have late := right place
  rw [due_append]
  omega

theorem Owed.receive (memo : DeliveryMemo) (key : Key) (entries : List (Nat × Value)) :
    Owed memo (parseBatch key entries) (memo.receive key entries) := by
  intro place
  have passed := parseBatch_due key entries place
  simp only [DeliveryMemo.receive]
  omega

theorem Owed.weaken {before after : DeliveryMemo} {messages : List StreamMessage}
    (owed : Owed before messages after) : Owed before [] after := by
  intro place
  have enough := owed place
  simp only [due_nil]
  omega

structure SameRunner (runner memory : WorkerRunner) : Prop where
  workerId : memory.workerId = runner.workerId
  groupName : memory.groupName = runner.groupName
  agentTypes : memory.agentTypes = runner.agentTypes

def gathered (outcomes : List (Except JsError (List StreamMessage))) : List StreamMessage :=
  outcomes.flatMap fun outcome => match outcome with
    | .ok messages => messages
    | .error _ => []

theorem gathered_append (outcomes : List (Except JsError (List StreamMessage)))
    (outcome : Except JsError (List StreamMessage)) :
    gathered (outcomes ++ [outcome]) = gathered outcomes ++ gathered [outcome] := by
  simp [gathered]

@[simp] theorem gathered_ok (messages : List StreamMessage) : gathered [.ok messages] = messages := by
  simp [gathered]

/-! ### The rounds of a consume loop -/

section Consume

variable {runner memory : WorkerRunner} {rounds : Nat} {memo : DeliveryMemo}

def Reading (before : DeliveryMemo) (runner : WorkerRunner)
    (outcome : Except JsError (List StreamMessage)) (memory : WorkerRunner)
    (after : DeliveryMemo) : Prop :=
  SameRunner runner memory ∧ Owed before (gathered [outcome]) after

theorem readStream_owed (same : SameRunner runner memory) {streamName : Key}
    (reads : runner.reads streamName) :
    (WorkerRunner.readStream streamName).wp (deliveryWatch (.consume runner rounds)).setting
      (Reading memo runner) memory memo := by
  refine Task.wp_alone_bind (Task.wp_alone_get ?_)
  refine Task.wp_alone_bind (wp_redis_watched ?_ fun reply _ => ?_)
  · exact ⟨runner, rfl, reads, same.groupName, same.workerId⟩
  · cases reply with
    | error message => exact ⟨same, Owed.refl memo⟩
    | ok entries =>
        refine Task.wp_alone_pure ⟨same, ?_⟩
        rw [gathered_ok]
        exact Owed.receive memo streamName entries

theorem reads_active (same : SameRunner runner memory) {agentType : String}
    (active : agentType ∈ memory.activeAgentTypes) : runner.reads (.ctrlStream agentType) := by
  simp only [WorkerRunner.activeAgentTypes, List.mem_filter, same.agentTypes] at active
  exact active.1

/-- Whether all outcomes are results is all that `orThrow` on each one looks at. -/
theorem wp_mapEach_orThrow {σ : Type} {watch : Watch effects DeliveryMemo} {memory : σ}
    (outcomes : List (Except JsError (List StreamMessage))) :
    (Task.mapEach outcomes orThrow : Proc σ (List (List StreamMessage))).wp watch.setting
      (fun outcome after last => after = memory ∧ last = memo ∧
        ∀ batches, outcome = .ok batches → batches.flatten = gathered outcomes) memory memo := by
  induction outcomes with
  | nil =>
      refine Task.wp_alone_pure ⟨rfl, rfl, ?_⟩
      rintro batches ⟨⟩
      rfl
  | cons outcome rest ih =>
      cases outcome with
      | error error =>
          refine Task.wp_alone_bind (Task.wp_alone_throw ⟨rfl, rfl, ?_⟩)
          rintro batches ⟨⟩
      | ok messages =>
          refine Task.wp_alone_bind (Task.wp_alone_pure ?_)
          refine Task.wp_alone_bind (Task.wp_mono ih ?_)
          rintro outcome after last - ⟨rfl, rfl, all⟩
          cases outcome with
          | error error =>
              refine ⟨rfl, rfl, ?_⟩
              rintro batches ⟨⟩
          | ok batches =>
              refine Task.wp_alone_pure ⟨rfl, rfl, ?_⟩
              rintro _ ⟨⟩
              simp [gathered, all batches rfl]

theorem readStreams_owed (same : SameRunner runner memory) (agentTypes : List String)
    (active : ∀ agentType ∈ agentTypes, runner.reads (.ctrlStream agentType)) :
    (WorkerRunner.readStreams agentTypes).wp (deliveryWatch (.consume runner rounds)).setting
      (Reading memo runner) memory memo := by
  refine Task.wp_alone_bind (Task.wp_mono (Task.wp_alone_mapEach
    (fun outcomes memory after => SameRunner runner memory ∧ Owed memo (gathered outcomes) after)
    agentTypes ?_ ⟨same, Owed.refl memo⟩) ?_)
  · intro agentType listed outcomes memory middle ⟨unchanged, owed⟩
    refine Task.wp_mono (Task.wp_alone_attempt (readStream_owed unchanged
      (active agentType listed))) ?_
    rintro _ after last - ⟨outcome, rfl, kept, more⟩
    refine ⟨outcome, rfl, kept, ?_⟩
    rw [gathered_append]
    exact owed.trans more
  · rintro _ after last - ⟨outcomes, rfl, kept, owed⟩
    refine Task.wp_alone_bind (Task.wp_mono (wp_mapEach_orThrow outcomes) ?_)
    rintro outcome _ _ - ⟨rfl, rfl, all⟩
    cases outcome with
    | error error => exact ⟨kept, owed.weaken⟩
    | ok batches =>
        refine Task.wp_alone_pure ⟨kept, ?_⟩
        rw [gathered_ok, all batches rfl]
        exact owed

theorem isWorkerOnline_noted {σ : Type} {task : FleetTask} {memory : σ} (workerId : String) :
    (isWorkerOnline workerId : Proc σ Bool).wp (deliveryWatch task).setting
      (fun outcome after last => after = memory ∧ last.credit = memo.credit ∧
        last.pending = memo.pending ∧ memo.offline ⊆ last.offline ∧
        (outcome = .ok false → workerId ∈ last.offline)) memory memo := by
  refine Task.wp_alone_bind (wp_redis_watched rfl fun reply _ => ?_)
  cases reply with
  | error message =>
      refine ⟨rfl, rfl, rfl, List.Subset.refl _, ?_⟩
      rintro ⟨⟩
  | ok lease =>
      refine Task.wp_alone_pure ?_
      have noted : (deliveryWatch task).note memo (.redis (.get (.workerOnlineLease workerId)))
          (.ok lease) = if leaseOnline lease then memo
            else { memo with offline := workerId :: memo.offline } := rfl
      rw [noted]
      split
      · rename_i online
        refine ⟨rfl, rfl, rfl, List.Subset.refl _, fun offline => ?_⟩
        have contrary : leaseOnline lease = false := Except.ok.inj offline
        rw [online] at contrary
        cases contrary
      · exact ⟨rfl, rfl, rfl, List.subset_cons_self _ _, fun _ => List.mem_cons_self⟩

def Abandoned (workerId : String) (waiting : List Redis.PendingSummary) (offline : List String)
    (entries : List Nat) : Prop :=
  entries.Sublist (waiting.map Redis.PendingSummary.entry) ∧ ∀ entry ∈ entries,
    ∃ summary ∈ waiting, summary.entry = entry ∧ summary.consumer ≠ workerId ∧
      summary.consumer ∈ offline

theorem claimableEntries_abandoned (waiting : List Redis.PendingSummary) :
    (WorkerRunner.claimableEntries runner.workerId waiting).wp
      (deliveryWatch (.consume runner rounds)).setting
      (fun outcome after last => after = memory ∧ last.credit = memo.credit ∧
        last.pending = memo.pending ∧ memo.offline ⊆ last.offline ∧
        ∀ claimable, outcome = .ok claimable →
          Abandoned runner.workerId waiting last.offline claimable) memory memo := by
  induction waiting generalizing memo with
  | nil =>
      refine Task.wp_alone_pure ⟨rfl, rfl, rfl, List.Subset.refl _, ?_⟩
      rintro _ ⟨⟩
      exact ⟨List.Sublist.refl _, fun entry listed => absurd listed List.not_mem_nil⟩
  | cons summary rest ih =>
      have widen {claimable : List Nat} {offline : List String}
          (all : Abandoned runner.workerId rest offline claimable) :
          Abandoned runner.workerId (summary :: rest) offline claimable := by
        refine ⟨all.1.cons _, fun entry listed => ?_⟩
        obtain ⟨other, inRest, facts⟩ := all.2 entry listed
        exact ⟨other, List.mem_cons_of_mem _ inRest, facts⟩
      unfold WorkerRunner.claimableEntries
      split
      · refine Task.wp_mono ih ?_
        rintro outcome after last - ⟨unchanged, credit, pending, wider, all⟩
        exact ⟨unchanged, credit, pending, wider, fun claimable made => widen (all claimable made)⟩
      · rename_i considered
        refine Task.wp_alone_bind (Task.wp_mono (isWorkerOnline_noted _) ?_)
        rintro outcome after middle - ⟨rfl, credit, pending, wider, absent⟩
        cases outcome with
        | error error =>
            refine ⟨rfl, credit, pending, wider, ?_⟩
            rintro _ ⟨⟩
        | ok online =>
            refine Task.wp_alone_bind (Task.wp_mono ih ?_)
            rintro outcome _ last - ⟨rfl, creditLast, pendingLast, widerLast, all⟩
            have credits := creditLast.trans credit
            have pendings := pendingLast.trans pending
            have widest := List.Subset.trans wider widerLast
            cases outcome with
            | error error =>
                refine ⟨rfl, credits, pendings, widest, ?_⟩
                rintro _ ⟨⟩
            | ok others =>
                refine Task.wp_alone_pure ⟨rfl, credits, pendings, widest, ?_⟩
                rintro claimable ⟨⟩
                cases online with
                | true => exact widen (all others rfl)
                | false =>
                    refine ⟨(all others rfl).1.cons_cons _, fun entry listed => ?_⟩
                    rcases List.mem_cons.mp listed with rfl | inOthers
                    · exact ⟨summary, List.mem_cons_self, rfl, fun own => considered (.inl own),
                        widerLast (absent rfl)⟩
                    · exact (widen (all others rfl)).2 entry inOthers

theorem reclaimStream_owed (same : SameRunner runner memory) {agentType : String}
    (reads : runner.reads (.ctrlStream agentType)) :
    (WorkerRunner.reclaimStream agentType).wp (deliveryWatch (.consume runner rounds)).setting
      (Reading memo runner) memory memo := by
  refine Task.wp_alone_bind (Task.wp_alone_get ?_)
  have looks : ∀ other count, FleetTask.consume runner rounds = .consume other count →
      other.reads (.ctrlStream agentType) ∧ memory.groupName = other.groupName := by
    rintro _ _ ⟨⟩
    exact ⟨reads, same.groupName⟩
  refine Task.wp_alone_bind (wp_redis_watched looks fun reply _ => ?_)
  cases reply with
  | error message => exact ⟨same, Owed.refl memo⟩
  | ok waiting =>
      rw [same.workerId]
      refine Task.wp_alone_bind (Task.wp_mono (claimableEntries_abandoned waiting) ?_)
      rintro outcome _ last - ⟨rfl, credit, pending, _, abandoned⟩
      have owed : Owed memo [] last := fun place => by rw [credit]; exact Nat.le_refl _
      cases outcome with
      | error error => exact ⟨same, owed⟩
      | ok claimable =>
          dsimp only
          split
          · exact Task.wp_alone_pure ⟨same, owed⟩
          · rename_i some
            refine Task.wp_alone_bind (wp_redis_watched ?_ fun reply _ => ?_)
            · refine ⟨runner, rounds, rfl, reads, same.groupName, rfl, rfl, ?_, waiting, pending,
                abandoned claimable rfl⟩
              rintro rfl
              exact some rfl
            · cases reply with
              | error message => exact ⟨same, owed⟩
              | ok entries =>
                  refine Task.wp_alone_pure ⟨same, ?_⟩
                  rw [gathered_ok]
                  exact owed.trans (Owed.receive { last with pending := none } _ entries)

theorem reclaimOrphanedMessages_owed (same : SameRunner runner memory) :
    WorkerRunner.reclaimOrphanedMessages.wp (deliveryWatch (.consume runner rounds)).setting
      (Reading memo runner) memory memo := by
  refine Task.wp_alone_bind (Task.wp_alone_get ?_)
  refine Task.wp_alone_bind (Task.wp_mono (Task.wp_alone_mapEach
    (fun batches memory after => SameRunner runner memory ∧ Owed memo batches.flatten after)
    memory.activeAgentTypes ?_ ⟨same, Owed.refl memo⟩) ?_)
  · intro agentType active batches current middle ⟨unchanged, owed⟩
    refine Task.wp_alone_tryCatch (Task.wp_mono
      (reclaimStream_owed unchanged (reads_active same active)) ?_)
    rintro outcome after last - ⟨kept, more⟩
    cases outcome with
    | error error =>
        refine Task.wp_alone_pure ⟨_, rfl, kept, ?_⟩
        rw [List.flatten_append]
        exact owed.trans more
    | ok messages =>
        refine ⟨_, rfl, kept, ?_⟩
        rw [List.flatten_append]
        rw [gathered_ok] at more
        simpa using owed.trans more
  · rintro _ after last - ⟨batches, rfl, kept, owed⟩
    refine Task.wp_alone_pure ⟨kept, ?_⟩
    rw [gathered_ok]
    exact owed

theorem readPrimary_owed (same : SameRunner runner memory) (agentTypes : List String)
    (active : ∀ agentType ∈ agentTypes, runner.reads (.ctrlStream agentType)) :
    (WorkerRunner.readPrimary agentTypes).wp (deliveryWatch (.consume runner rounds)).setting
      (Reading memo runner) memory memo := by
  refine Task.wp_alone_bind (Task.wp_alone_get ?_)
  refine Task.wp_alone_bind (Task.wp_alone_modify ?_)
  have moved : SameRunner runner { memory with primaryCursor := memory.primaryCursor + 1 } :=
    ⟨same.workerId, same.groupName, same.agentTypes⟩
  dsimp only
  split
  · exact Task.wp_alone_pure ⟨moved, Owed.refl memo⟩
  · rename_i agentType found
    exact readStream_owed moved (active agentType (List.mem_of_getElem? found))

theorem poll_owed (same : SameRunner runner memory) :
    WorkerRunner.poll.wp (deliveryWatch (.consume runner rounds)).setting
      (Reading memo runner) memory memo := by
  refine Task.wp_alone_bind (Task.wp_alone_get ?_)
  dsimp only
  split
  · exact Task.wp_alone_pure ⟨same, Owed.refl memo⟩
  · have active : ∀ agentType ∈ memory.activeAgentTypes, runner.reads (.ctrlStream agentType) :=
      fun agentType listed => reads_active same listed
    refine Task.wp_alone_bind (Task.wp_mono (readStreams_owed same _ active) ?_)
    rintro outcome afterRead read - ⟨kept, owed⟩
    cases outcome with
    | error error => exact ⟨kept, owed⟩
    | ok first =>
        dsimp only
        split
        · exact Task.wp_alone_pure ⟨kept, owed⟩
        · refine Task.wp_alone_bind (Task.wp_alone_bind (Task.wp_alone_get
            (Task.wp_alone_bind (Task.wp_alone_modify (Task.wp_alone_pure ?_)))))
          have counted : SameRunner runner { afterRead with reclaimCountdown :=
              if afterRead.reclaimCountdown - 1 ≤ 0 then WorkerRunner.orphanReclaimEveryNPolls
              else afterRead.reclaimCountdown - 1 } :=
            ⟨kept.workerId, kept.groupName, kept.agentTypes⟩
          have afterReclaim {reclaimed : List StreamMessage} {current : WorkerRunner}
              {last : DeliveryMemo} (unchanged : SameRunner runner current)
              (more : Owed read reclaimed last) :
              ((if !reclaimed.isEmpty then pure reclaimed
                else WorkerRunner.readPrimary memory.activeAgentTypes) : Proc WorkerRunner _).wp
                (deliveryWatch (.consume runner rounds)).setting (Reading memo runner)
                current last := by
            split
            · refine Task.wp_alone_pure ⟨unchanged, ?_⟩
              rw [gathered_ok]
              exact owed.weaken.trans more
            · refine Task.wp_mono (readPrimary_owed unchanged _ active) ?_
              rintro outcome after final - ⟨still, rest⟩
              refine ⟨still, ?_⟩
              exact (owed.weaken.trans more.weaken).trans rest
          refine Task.wp_alone_bind ?_
          split
          · refine Task.wp_mono (reclaimOrphanedMessages_owed counted) ?_
            rintro outcome after last - ⟨unchanged, more⟩
            cases outcome with
            | error error => exact ⟨unchanged, owed.weaken.trans more⟩
            | ok reclaimed =>
                rw [gathered_ok] at more
                exact afterReclaim unchanged more
          · exact Task.wp_alone_pure (afterReclaim counted (Owed.refl read))

theorem handOver_owed (same : SameRunner runner memory) (messages : List StreamMessage)
    (owed : ∀ place, due messages place ≤ memo.credit place) :
    (Task.forEach messages (WorkerRunner.handOver runner.workerId)).wp
      (deliveryWatch (.consume runner rounds)).setting
      (fun _ memory _ => SameRunner runner memory) memory memo := by
  induction messages generalizing memo with
  | nil => exact Task.wp_alone_pure same
  | cons message rest ih =>
      have here : 0 < memo.credit message.place := by
        have enough := owed message.place
        rw [due_cons] at enough
        simp only [if_true] at enough
        omega
      refine Task.wp_alone_bind (wp_await_watched ⟨here, rfl⟩ fun _ _ => ih ?_)
      intro place
      have enough := owed place
      rw [due_cons] at enough
      change due rest place ≤ (memo.spend message.place).credit place
      by_cases equal : place = message.place
      · subst equal
        simp only [if_true] at enough
        simp only [DeliveryMemo.spend, Function.update_self]
        omega
      · simp only [DeliveryMemo.spend, ne_eq, equal, not_false_eq_true, Function.update_of_ne]
        omega

theorem consumeRound_owed (same : SameRunner runner memory) :
    WorkerRunner.consumeRound.wp (deliveryWatch (.consume runner rounds)).setting
      (fun _ memory _ => SameRunner runner memory) memory memo := by
  refine Task.wp_alone_bind (Task.wp_mono (poll_owed same) ?_)
  rintro outcome current last - ⟨kept, owed⟩
  cases outcome with
  | error error => exact kept
  | ok messages =>
      refine Task.wp_alone_bind (Task.wp_alone_get ?_)
      dsimp only
      rw [kept.workerId]
      refine handOver_owed kept messages fun place => ?_
      have enough := owed place
      rw [gathered_ok] at enough
      omega

theorem consume_owed (same : SameRunner runner memory) (count : Nat) :
    (WorkerRunner.consume count).wp (deliveryWatch (.consume runner rounds)).setting
      (fun _ _ _ => True) memory memo := by
  induction count generalizing memory memo with
  | zero => exact Task.wp_alone_pure trivial
  | succ count ih =>
      refine Task.wp_alone_bind (Task.wp_alone_get ?_)
      refine Task.wp_alone_bind (wp_await_watched rfl fun state _ => ?_)
      dsimp only
      split
      · exact Task.wp_alone_pure trivial
      · split
        · exact ih same
        · refine Task.wp_alone_bind (Task.wp_failSoft (Task.wp_mono (consumeRound_owed same) ?_)
            trivial)
          rintro _ current last - kept _ rfl -
          exact ih kept

end Consume

/-! ### The other tasks -/

section Tasks

variable {σ : Type} {inv : σ → Prop}

theorem isBystander_of_message {groupName : String} {streamName : Key} {msgId : Nat} {op : Op}
    (processed : op.ofMessage groupName streamName msgId = true) : op.isBystander = true := by
  cases op with
  | redis command =>
      cases command with
      | set key value ifAbsent ttl =>
          cases key <;> first | rfl | exact processed
      | del key => cases key <;> first | rfl | exact processed
      | expire key ttl => cases key <;> first | rfl | exact processed
      | xreadgroup key name consumer count => exact processed
      | xclaim key name consumer minIdle entries => exact processed
      | _ => rfl
  | process workerId request =>
      cases request with
      | handOver key entry command => exact processed
      | reach moment => cases moment <;> first | rfl | exact processed
      | _ => rfl
  | _ => rfl

theorem processAndAck_bystander (worker : GatewayWorker) (groupName : String) (streamName : Key)
    (msgId : Nat) (data : GatewayCommand) :
    (worker.processAndAck groupName streamName msgId data : Proc σ PUnit).Uses bystander inv :=
  worker.processAndAck_message (fun _ => isBystander_of_message) data

theorem isBystander_of_lifecycle {op : Op} (lives : op.ofLifecycle = true) :
    op.isBystander = true := by
  cases op with
  | redis command =>
      cases command with
      | set key value ifAbsent ttl => cases key <;> first | rfl | cases lives
      | del key => cases key <;> first | rfl | cases lives
      | expire key ttl => cases key <;> first | rfl | cases lives
      | xreadgroup key name consumer count => cases lives
      | xclaim key name consumer minIdle entries => cases lives
      | _ => rfl
  | process workerId request =>
      cases request with
      | handOver key entry command => cases lives
      | reach moment => cases lives
      | _ => rfl
  | _ => rfl

theorem initializeRunner_bystander :
    WorkerRunner.initializeRunner.Uses bystander fun _ => True :=
  WorkerRunner.initializeRunner_lifecycle.mono (fun _ => isBystander_of_lifecycle)
    fun _ _ _ => trivial

theorem note_bystander (memo : DeliveryMemo) {op : Op} (aside : op.isBystander = true)
    (reply : op.Reply) : (memo.note op reply).credit = memo.credit := by
  unfold DeliveryMemo.note
  split
  · cases aside
  · cases aside
  · cases aside
  · rfl
  · split <;> rfl
  · cases aside
  · cases aside
  · rfl

theorem allow_bystander {task : FleetTask} (loopless : task.isConsume = false)
    (memo : DeliveryMemo) {op : Op} (aside : op.isBystander = true) :
    (deliveryWatch task).allow memo op := by
  cases op with
  | redis command =>
      cases command with
      | xreadgroup key name consumer count => cases aside
      | xclaim key name consumer minIdle entries => cases aside
      | xpending key name count =>
          rintro runner rounds rfl
          cases loopless
      | _ => exact aside
  | process workerId request =>
      cases request with
      | handOver key entry command => cases aside
      | reach moment => cases moment <;> first | exact aside | cases aside
      | _ => exact aside
  | _ => exact aside

theorem wp_bystander {α : Type} {fleetTask : FleetTask} {task : Proc σ α} {memory : σ}
    {memo : DeliveryMemo} (loopless : fleetTask.isConsume = false)
    (uses : task.Uses bystander inv) (held : inv memory) :
    task.wp (deliveryWatch fleetTask).setting
      (fun _ after last => inv after ∧ last.credit = memo.credit) memory memo := by
  refine wp_of_uses_watched (fun last : DeliveryMemo => last.credit = memo.credit) uses ?_ held rfl
  intro current op same aside
  refine ⟨allow_bystander loopless _ aside, fun reply _ => ⟨trivial, ?_⟩⟩
  exact (note_bystander current aside reply).trans same

theorem spend_covers (memo : DeliveryMemo) (spent place : Key × Nat) :
    memo.credit place ≤ (memo.spend spent).credit place + if spent = place then 1 else 0 := by
  by_cases same : place = spent
  · subst same
    simp only [DeliveryMemo.spend, Function.update_self, if_true]
    omega
  · simp [DeliveryMemo.spend, same]

theorem runControlEntry_owed {runner : WorkerRunner} {memo : DeliveryMemo}
    (entry : Nat × Value)
    (owed : 0 < memo.credit (.workerCtrlStream runner.workerId, entry.1)) :
    (runControlEntry runner.workerId runner.groupName entry : Proc Unit PUnit).wp
      (deliveryWatch (.control runner)).setting
      (fun _ _ last => ∀ place, memo.credit place ≤ last.credit place +
        if (Key.workerCtrlStream runner.workerId, entry.1) = place then 1 else 0) () memo := by
  have keeps {task : Proc Unit PUnit} {memo : DeliveryMemo}
      (uses : task.Uses bystander fun _ => True) :
      task.wp (deliveryWatch (.control runner)).setting
        (fun _ _ last => last.credit = memo.credit) () memo :=
    Task.wp_mono (wp_bystander rfl uses trivial) fun _ _ _ _ kept => kept.2
  have acknowledges (msgId : Nat) :
      (xack (.workerCtrlStream runner.workerId) runner.groupName msgId : Proc Unit PUnit).Uses
        bystander fun _ => True :=
    uses_redis_bind rfl fun _ _ => Task.uses_pure _
  rcases entry with ⟨msgId, value⟩
  unfold runControlEntry
  dsimp only
  split
  · refine Task.wp_mono (keeps (acknowledges msgId)) ?_
    intro _ _ last _ kept place
    rw [kept]
    exact Nat.le_add_right _ _
  · rename_i message parsed
    obtain rfl : message.msgId = msgId := by
      unfold parseStreamEntry at parsed
      split at parsed
      · rename_i same
        cases same
        cases parsed
        rfl
      · cases parsed
    refine Task.wp_alone_tryCatch (Task.wp_alone_bind (wp_await_watched owed fun _ _ => ?_))
    refine Task.wp_mono (keeps (handleControlMessage_message
      (fun _ => isBystander_of_message) _ _)) ?_
    intro outcome _ last _ kept
    cases outcome with
    | ok done =>
        intro place
        rw [kept]
        exact spend_covers memo _ place
    | error error =>
        refine Task.wp_mono (keeps (acknowledges _)) ?_
        intro _ _ final _ still place
        rw [still, kept]
        exact spend_covers memo _ place

theorem runControlOnce_owed {runner : WorkerRunner} {memo : DeliveryMemo} :
    (runControlOnce runner.workerId runner.groupName : Proc Unit PUnit).wp
      (deliveryWatch (.control runner)).setting (fun _ _ _ => True) () memo := by
  have each (entries : List (Nat × Value)) : ∀ memo : DeliveryMemo,
      (∀ place, (entries.map fun entry => (Key.workerCtrlStream runner.workerId, entry.1)).count
        place ≤ memo.credit place) →
      (Task.forEach entries (runControlEntry runner.workerId runner.groupName) :
        Proc Unit PUnit).wp (deliveryWatch (.control runner)).setting (fun _ _ _ => True)
        () memo := by
    induction entries with
    | nil => exact fun memo _ => Task.wp_alone_pure trivial
    | cons entry rest ih =>
        intro memo owed
        have here := owed (.workerCtrlStream runner.workerId, entry.1)
        simp only [List.map_cons, List.count_cons_self] at here
        refine Task.wp_alone_bind (Task.wp_mono (runControlEntry_owed entry (by omega)) ?_)
        intro outcome _ last _ covered
        cases outcome with
        | error error => trivial
        | ok done =>
            refine ih last fun place => ?_
            have enough := owed place
            have spent := covered place
            simp only [List.map_cons, List.count_cons, beq_iff_eq] at enough
            omega
  refine Task.wp_alone_bind (wp_redis_watched ⟨runner, rfl, rfl, rfl, rfl⟩ fun reply _ => ?_)
  cases reply with
  | error message => trivial
  | ok entries =>
      exact each entries _ fun place => Nat.le_add_left _ _

theorem program_watched (task : FleetTask) :
    task.program.wp (deliveryWatch task).setting (fun _ _ => True) {} := by
  cases task with
  | setup runner =>
      refine wp_toEnd (Task.wp_mono (wp_bystander rfl initializeRunner_bystander trivial) ?_)
      exact fun _ _ _ _ _ => trivial
  | consume runner rounds => exact wp_toEnd (consume_owed ⟨rfl, rfl, rfl⟩ rounds)
  | control runner => exact wp_toEnd runControlOnce_owed
  | message worker groupName entry =>
      have aside : (worker.processAndAck groupName entry.streamName entry.msgId entry.command :
          Proc Unit PUnit).Uses bystander fun _ => True := processAndAck_bystander _ _ _ _ _
      refine wp_toEnd (Task.wp_mono (wp_bystander rfl aside trivial) ?_)
      exact fun _ _ _ _ _ => trivial
  | other program aside =>
      have runs : program.wp (deliveryWatch (.other program aside)).setting
          (fun _ memo => True ∧ (fun _ => True) memo) {} := by
        refine Prog.wp_of_uses (fun _ _ _ _ _ => trivial) ?_ aside trivial
        exact fun memo op _ _ permitted =>
          ⟨allow_bystander rfl memo permitted, fun _ _ _ _ => ⟨trivial, trivial⟩⟩
      exact Prog.wp_mono runs fun _ _ _ _ => trivial

end Tasks

end ByFramework
