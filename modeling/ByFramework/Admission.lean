import ByFramework.AdmissionCore

/-!
Which deliveries the availability router lets pass, over states of the control plane and the
registry that may change from one read to the next.
-/

namespace ByFramework

open Async

namespace RouteHistory

variable {intent : DeliveryIntent} {history : RouteHistory intent}

section Steps

variable {record : RouteRecord}

theorem ran_get (key : Key) :
    history.ran (redis (.get key)) record =
      ((.ok ((history.state record.commands).held key), ()), record.skip 1) := rfl

theorem ran_smembers (agentType : String) :
    history.ran (redis (.smembers (.agentTypeMembers agentType))) record =
      ((.ok ((history.state record.commands).members agentType), ()), record.skip 1) := rfl

theorem ran_dateNow :
    history.ran dateNow record = ((.ok (history.clock record.readings), ()),
      { record with readings := record.readings + 1 }) := rfl

theorem ran_bind {α β : Type} {task : Proc Unit α} {next : α → Proc Unit β} {value : α}
    {later : RouteRecord} (first : history.ran task record = ((.ok value, ()), later)) :
    history.ran (task >>= next) record = history.ran (next value) later :=
  Task.run_bind_ok first

theorem ran_pure {α : Type} (value : α) :
    history.ran (pure value) record = ((.ok value, ()), record) := rfl

theorem ran_readJson (key : Key) :
    history.ran (readJson key) record =
      ((.ok ((history.state record.commands).fields key), ()), record.skip 1) := by
  unfold readJson
  rw [ran_bind (ran_get key)]
  unfold ControlState.fields foundFields
  split
  · rename_i fields found
    rw [found]
    rfl
  · split
    · rename_i differs _ fields found
      exact absurd found (differs fields)
    · rfl

theorem ran_isWorkerOnline (workerId : String) :
    history.ran (isWorkerOnline workerId) record =
      ((.ok ((history.state record.commands).online workerId), ()), record.skip 1) := by
  unfold isWorkerOnline
  rw [ran_bind (ran_get _)]
  rfl

theorem ran_onlineOf (workers : List String) :
    history.ran (onlineOf workers) record =
      ((.ok (history.onlineFrom record.commands workers), ()), record.skip workers.length) := by
  induction workers generalizing record with
  | nil => rfl
  | cons workerId rest ih =>
      have total : (record.skip 1).skip rest.length = record.skip (rest.length + 1) := by
        simp [RouteRecord.skip, Nat.add_assoc, Nat.add_comm 1]
      unfold onlineOf
      rw [ran_bind (ran_isWorkerOnline workerId), ran_bind ih, ran_pure, onlineFrom, total]
      rfl

theorem ran_hasOnlineAgentType (agentType : String) :
    history.ran (hasOnlineAgentType agentType) record =
      ((.ok (history.found record.commands agentType), ()),
        record.skip (history.looks record.commands agentType)) := by
  unfold hasOnlineAgentType
  rw [ran_bind (ran_smembers agentType), ran_onlineOf]
  simp [RouteRecord.skip, looks, found, Nat.add_assoc]

theorem ran_publishWakeup :
    history.ran (publishWakeup intent) record =
      ((.ok ⟨⟩, ()), record.append .controlPlaneWakeupStream (.wakeup intent)) := rfl

theorem ran_queuePending :
    history.ran (queuePending intent) record =
      ((.ok { status := .queuePending, streamName := some .controlPlaneDeliveryPendingStream },
        ()), record.append .controlPlaneDeliveryPendingStream
          (.pendingDelivery (.ctrlStream intent.targetAgentType) intent)) := rfl

theorem mem_onlineFrom {instant : Nat} {workers : List String} {workerId : String}
    (online : workerId ∈ history.onlineFrom instant workers) :
    ∃ offset < workers.length, workerId ∈ workers ∧
      (history.state (instant + offset)).online workerId = true := by
  induction workers generalizing instant with
  | nil => simp [onlineFrom] at online
  | cons first rest ih =>
      have later (inRest : workerId ∈ history.onlineFrom (instant + 1) rest) :
          ∃ offset < (first :: rest).length, workerId ∈ first :: rest ∧
            (history.state (instant + offset)).online workerId = true := by
        obtain ⟨offset, below, listed, shown⟩ := ih inRest
        refine ⟨offset + 1, by simpa using below, List.mem_cons_of_mem _ listed, ?_⟩
        rw [← Nat.add_assoc, Nat.add_right_comm]
        exact shown
      unfold onlineFrom at online
      split at online
      · rename_i shown
        rcases List.mem_cons.mp online with rfl | inRest
        · exact ⟨0, by simp, List.mem_cons_self, shown⟩
        · exact later inRest
      · exact later online

theorem foundOnline_of_found {instant : Nat} {agentType : String} {later : RouteRecord}
    (found : history.found instant agentType ≠ [])
    (enough : instant + history.looks instant agentType ≤ later.commands) :
    history.FoundOnline later agentType := by
  obtain ⟨workerId, online⟩ := List.exists_mem_of_ne_nil _ found
  obtain ⟨offset, below, listed, shown⟩ := mem_onlineFrom online
  unfold looks at enough
  exact ⟨instant, instant + 1 + offset, workerId, by omega, by omega, listed, shown⟩

end Steps

section Waiting

variable {record : RouteRecord}

def waited (intent : DeliveryIntent) : AvailabilityResult :=
  { status := .waitAndDeliver, streamName := some (.ctrlStream intent.targetAgentType) }

theorem clock_advances (poll : Nat) :
    min (history.clock 0 + intent.patience) (history.clock 0 + poll) ≤
      history.clock (2 * poll + 1) := by
  induction poll with
  | zero =>
      have first := history.steady 0
      simp only [Nat.mul_zero, Nat.zero_add] at first ⊢
      omega
  | succ poll ih =>
      have looked : history.clock (2 * poll + 1) ≤ history.clock (2 * poll + 2) :=
        history.steady (2 * poll + 1)
      have slept : history.clock (2 * poll + 2) ≤ history.clock (2 * poll + 3) :=
        history.steady (2 * poll + 2)
      have sleeps := history.sleeps poll
      have index : 2 * (poll + 1) + 1 = 2 * poll + 3 := by omega
      rw [index]
      omega

theorem loop_ends_from (left poll : Nat) (readings : record.readings = 2 * poll + 1)
    (distance : poll + left = intent.patience.toNat) :
    ∃ result later,
      history.ran (pollWakeup intent (history.clock 0 + intent.patience) (left + 1)) record =
        ((.ok (some result), ()), later) ∧
      (history.ran (awaitWakeup intent (history.clock 0 + intent.patience) left) record).1 =
        (.ok result, ()) := by
  have advances := @clock_advances _ history poll
  induction left generalizing poll record with
  | zero =>
      have late : ¬history.clock record.readings < history.clock 0 + intent.patience := by
        rw [readings]
        omega
      refine ⟨wakeupTimedOut intent, { record with readings := record.readings + 1 }, ?_, rfl⟩
      rw [pollWakeup, ran_bind ran_dateNow, if_neg late, ran_pure]
  | succ left ih =>
      rw [pollWakeup, ran_bind ran_dateNow, awaitWakeup, ran_bind ran_dateNow]
      by_cases soon : history.clock record.readings < history.clock 0 + intent.patience
      · rw [if_pos soon, if_pos soon, ran_bind (ran_hasOnlineAgentType _),
          ran_bind (ran_hasOnlineAgentType _)]
        split
        · exact ⟨waited intent, _, rfl, rfl⟩
        · rw [ran_bind ran_dateNow, ran_bind ran_dateNow]
          apply ih (poll + 1)
          · simp [RouteRecord.skip, readings]
            omega
          · omega
          · exact clock_advances (poll + 1)
      · rw [if_neg soon, if_neg soon]
        exact ⟨wakeupTimedOut intent, _, rfl, rfl⟩

theorem loop_ends : history.LoopEnds := by
  intro record readings
  exact loop_ends_from _ 0 (by simpa using readings) (by omega)

theorem ran_awaitWakeup (deadline : Int) (polls : Nat) :
    ∃ result later, history.ran (awaitWakeup intent deadline polls) record =
        ((.ok result, ()), later) ∧ later.appended = record.appended ∧
      (result = wakeupTimedOut intent ∨
        result = waited intent ∧ history.FoundOnline later intent.targetAgentType) := by
  induction polls generalizing record with
  | zero => exact ⟨_, _, rfl, rfl, .inl rfl⟩
  | succ polls ih =>
      rw [awaitWakeup, ran_bind ran_dateNow]
      split
      · rw [ran_bind (ran_hasOnlineAgentType _)]
        split
        · rename_i online
          refine ⟨_, _, rfl, rfl, .inr ⟨rfl, ?_⟩⟩
          refine foundOnline_of_found ?_ (Nat.le_refl _)
          simpa using online
        · rw [ran_bind ran_dateNow]
          obtain ⟨result, later, same, kept, either⟩ := ih
          exact ⟨result, later, same, kept, either⟩
      · exact ⟨_, _, rfl, rfl, .inl rfl⟩

end Waiting

/-! ### What passes -/

section Results

variable {record : RouteRecord}

theorem Admitted.of_reject (error errorCode : String) (appended : record.pending = []) :
    history.Admitted (reject error errorCode) record where
  circuit _ stream := by cases stream
  worker _ stream := by cases stream
  quota delivered := absurd rfl delivered
  queued := appended

theorem Admitted.of_target {result : AvailabilityResult}
    (stream : result.streamName = some (.ctrlStream intent.targetAgentType))
    (unqueued : result.status ≠ .queuePending)
    (circuit : (history.state 0).circuitOpen intent.targetAgentType = false)
    (quota : (history.state 1).quotaSpent intent.userCode = false)
    (worker : intent.policy = .sendAnyway ∨ history.FoundOnline record intent.targetAgentType)
    (appended : record.pending = []) : history.Admitted result record where
  circuit agentType same := by
    obtain rfl : intent.targetAgentType = agentType := by
      simpa using stream.symm.trans same
    rw [if_pos rfl]
    exact circuit
  worker agentType same := by
    obtain rfl : intent.targetAgentType = agentType := by
      simpa using stream.symm.trans same
    rcases worker with anyway | found
    · exact .inl ⟨anyway, rfl⟩
    · exact .inr found
  quota _ := quota
  queued := by rw [if_neg unqueued, appended]

theorem awaitWakeup_admitted
    (circuit : (history.state 0).circuitOpen intent.targetAgentType = false)
    (quota : (history.state 1).quotaSpent intent.userCode = false)
    (appended : record.pending = []) (deadline : Int) (polls : Nat) :
    ∃ result later, history.ran (awaitWakeup intent deadline polls) record =
      ((.ok result, ()), later) ∧ history.Admitted result later := by
  obtain ⟨result, later, ends, kept, either⟩ := @ran_awaitWakeup _ history record deadline polls
  have pending : later.pending = [] := by
    unfold RouteRecord.pending at appended ⊢
    rw [kept, appended]
  refine ⟨result, later, ends, ?_⟩
  rcases either with rfl | ⟨rfl, found⟩
  · exact .of_reject _ _ pending
  · exact .of_target rfl nofun circuit quota (.inr found) pending

theorem routeOffline_admitted
    (circuit : (history.state 0).circuitOpen intent.targetAgentType = false)
    (quota : (history.state 1).quotaSpent intent.userCode = false)
    (appended : record.appended = []) :
    ∃ result later, history.ran (routeOffline intent) record = ((.ok result, ()), later) ∧
      history.Admitted result later := by
  have queues (before : RouteRecord) (none : before.pending = []) :
      history.Admitted
        { status := .queuePending, streamName := some .controlPlaneDeliveryPendingStream }
        (before.append .controlPlaneDeliveryPendingStream
          (.pendingDelivery (.ctrlStream intent.targetAgentType) intent)) := by
    refine ⟨fun _ stream => ?_, fun _ stream => ?_, fun _ => quota, ?_⟩
    · cases stream
    · cases stream
    · unfold RouteRecord.pending at none ⊢
      simp [RouteRecord.append, none]
  unfold routeOffline
  split
  · exact ⟨_, _, rfl, .of_reject _ _ (by simp [RouteRecord.pending, appended])⟩
  · exact ⟨_, _, ran_queuePending, queues _ (by simp [RouteRecord.pending, appended])⟩
  · rw [ran_bind ran_publishWakeup]
    refine ⟨_, _, ran_queuePending, queues _ ?_⟩
    simp [RouteRecord.pending, RouteRecord.append, appended]
  · unfold wakeAndWait
    rw [ran_bind ran_publishWakeup]
    dsimp only
    split
    · refine ⟨_, _, rfl, .of_reject _ _ ?_⟩
      simp [RouteRecord.pending, RouteRecord.append, appended]
    · rw [ran_bind ran_dateNow]
      apply awaitWakeup_admitted circuit quota
      simp [RouteRecord.pending, RouteRecord.append, appended]
  · exact ⟨_, _, rfl, .of_reject _ _ (by simp [RouteRecord.pending, appended])⟩

theorem fallback_admitted (falls : history.FallsBack) :
    history.Admitted
      { status := .fallbackToOtherAgentType
        streamName := some (.ctrlStream history.selected)
        selectedAgentType := history.selected }
      { commands := history.lastInstant + 1 } ↔
    (history.selected ≠ intent.targetAgentType →
      (history.state history.lastInstant).circuitOpen history.selected = false) := by
  constructor
  · intro admitted differs
    have circuit := admitted.circuit history.selected rfl
    rw [if_neg differs] at circuit
    exact circuit
  · intro closed
    refine ⟨?_, ?_, fun _ => falls.quota, rfl⟩
    · intro agentType stream
      obtain rfl : history.selected = agentType := by simpa using stream
      split
      · rename_i same
        rw [same]
        exact falls.circuit
      · rename_i differs
        exact closed differs
    · intro agentType stream
      obtain rfl : history.selected = agentType := by simpa using stream
      refine .inr (foundOnline_of_found falls.reachable ?_)
      dsimp only [lastInstant]
      omega

theorem ran_quotaRejection :
    if (history.state 1).quotaSpent intent.userCode = true then
      ∃ error errorCode, history.ran (quotaRejection intent.userCode) { commands := 1 } =
        ((.ok (some (reject error errorCode)), ()), { commands := 2 })
    else history.ran (quotaRejection intent.userCode) { commands := 1 } =
      ((.ok none, ()), { commands := history.targetInstant }) := by
  unfold ControlState.quotaSpent quotaRejection targetInstant
  by_cases anonymous : intent.userCode = ""
  · simp only [anonymous, ne_eq, not_true_eq_false, decide_false, Bool.false_and,
      Bool.false_eq_true, ↓reduceIte]
    rfl
  · rw [if_neg anonymous, if_neg anonymous, ran_bind (ran_readJson _)]
    dsimp only
    split
    · rename_i spent
      obtain ⟨_, available⟩ := Bool.and_eq_true_iff.mp spent
      rw [of_decide_eq_true available]
      exact ⟨_, _, rfl⟩
    · rename_i left
      split
      · rename_i available
        simp [anonymous, available] at left
      · rfl

theorem routeOnline_cases (supported : intent.policy.isSupported = true)
    (waits : intent.policy ≠ .sendAnyway)
    (circuit : (history.state 0).circuitOpen intent.targetAgentType = false)
    (quota : (history.state 1).quotaSpent intent.userCode = false) :
    (history.FallsBack ∧ history.ran (routeOnline intent) { commands := history.targetInstant } =
      ((.ok { status := .fallbackToOtherAgentType
              streamName := some (.ctrlStream history.selected)
              selectedAgentType := history.selected }, ()),
        { commands := history.lastInstant + 1 })) ∨
    (¬history.FallsBack ∧ ∃ result record,
      history.ran (routeOnline intent) { commands := history.targetInstant } =
        ((.ok result, ()), record) ∧ history.Admitted result record) := by
  unfold routeOnline
  rw [ran_bind (ran_hasOnlineAgentType _)]
  dsimp only
  by_cases online : history.found history.targetInstant intent.targetAgentType = []
  · rw [online, List.isEmpty_nil, Bool.not_true, if_neg Bool.false_ne_true]
    rw [ran_bind (ran_readJson _)]
    have chosen : textField ((history.state (({ commands := history.targetInstant } :
        RouteRecord).skip (history.looks history.targetInstant
          intent.targetAgentType)).commands).fields
        (.controlPlaneAgentFallback intent.targetAgentType))
        ["selected_agent_type", "agent_type", "target_agent_type"] = history.selected := rfl
    have read : (({ commands := history.targetInstant } : RouteRecord).skip
        (history.looks history.targetInstant intent.targetAgentType)).skip 1 =
          { commands := history.fallbackInstant + 1 } := rfl
    rw [chosen, read]
    by_cases named : history.selected = ""
    · refine .inr ⟨fun falls => falls.named named, ?_⟩
      rw [if_pos named, ran_bind (ran_pure _)]
      exact routeOffline_admitted circuit quota rfl
    · rw [if_neg named, ran_bind (ran_hasOnlineAgentType _)]
      dsimp only
      by_cases reachable : history.found (history.fallbackInstant + 1) history.selected = []
      · refine .inr ⟨fun falls => falls.reachable reachable, ?_⟩
        rw [reachable, List.isEmpty_nil, Bool.not_true, if_neg Bool.false_ne_true]
        exact routeOffline_admitted circuit quota rfl
      · refine .inl ⟨⟨supported, waits, circuit, quota, online, named, reachable⟩, ?_⟩
        have some : (!(history.found (history.fallbackInstant + 1)
            history.selected).isEmpty) = true := by
          simpa using reachable
        have last : history.fallbackInstant + 1 + history.looks (history.fallbackInstant + 1)
            history.selected = history.lastInstant + 1 := by
          unfold lastInstant
          omega
        rw [if_pos some, ran_pure, RouteRecord.skip, last]
  · refine .inr ⟨fun falls => online falls.offline, ?_⟩
    have some : (!(history.found history.targetInstant intent.targetAgentType).isEmpty) = true := by
      simpa using online
    rw [if_pos some]
    refine ⟨_, _, rfl, .of_target rfl nofun circuit quota (.inr ?_) rfl⟩
    exact foundOnline_of_found online (Nat.le_refl _)

theorem prepareDelivery_cases :
    (history.FallsBack ∧ history.ran (prepareDelivery intent) {} =
      ((.ok { status := .fallbackToOtherAgentType
              streamName := some (.ctrlStream history.selected)
              selectedAgentType := history.selected }, ()),
        { commands := history.lastInstant + 1 })) ∨
    (¬history.FallsBack ∧ ∃ result record,
      history.ran (prepareDelivery intent) {} = ((.ok result, ()), record) ∧
        history.Admitted result record) := by
  unfold prepareDelivery
  by_cases supported : intent.policy.isSupported = true
  · rw [supported, Bool.not_true, if_neg Bool.false_ne_true, ran_bind (ran_readJson _)]
    by_cases circuit : (history.state 0).circuitOpen intent.targetAgentType = true
    · refine .inr ⟨fun falls => absurd circuit (by simp [falls.circuit]), ?_⟩
      rw [if_pos (of_decide_eq_true circuit)]
      exact ⟨_, _, rfl, .of_reject _ _ rfl⟩
    · rw [if_neg fun shut => circuit (decide_eq_true shut)]
      have quotas := @ran_quotaRejection _ history
      rw [Bool.not_eq_true] at circuit
      by_cases quota : (history.state 1).quotaSpent intent.userCode = true
      · refine .inr ⟨fun falls => absurd quota (by simp [falls.quota]), ?_⟩
        rw [if_pos quota] at quotas
        obtain ⟨error, errorCode, rejects⟩ := quotas
        rw [show ({} : RouteRecord).skip 1 = { commands := 1 } from rfl, ran_bind rejects]
        exact ⟨_, _, rfl, .of_reject _ _ rfl⟩
      · rw [if_neg quota] at quotas
        rw [Bool.not_eq_true] at quota
        rw [show ({} : RouteRecord).skip 1 = { commands := 1 } from rfl, ran_bind quotas]
        dsimp only
        by_cases anyway : intent.policy = .sendAnyway
        · refine .inr ⟨fun falls => falls.waits anyway, ?_⟩
          rw [if_pos anyway]
          exact ⟨_, _, rfl, .of_target rfl nofun circuit quota (.inl anyway) rfl⟩
        · rw [if_neg anyway]
          exact routeOnline_cases supported anyway circuit quota
  · refine .inr ⟨fun falls => supported falls.supported, ?_⟩
    rw [Bool.not_eq_true] at supported
    rw [supported]
    exact ⟨_, _, rfl, .of_reject _ _ rfl⟩

/-- A call lets pass only what passes every gate exactly when its fallback, if it uses one, has its
circuit closed. -/
theorem admission_iff (intent : DeliveryIntent) (history : RouteHistory intent) :
    history.Admits ↔ history.FallbackClosed := by
  rcases @prepareDelivery_cases intent history with
    ⟨falls, ends⟩ | ⟨stays, result, record, ends, ok⟩
  · have iff := fallback_admitted falls
    constructor
    · rintro ⟨⟨result, record, same, admitted⟩, _⟩ _
      rw [ends] at same
      apply iff.mp
      obtain ⟨⟨rfl, _⟩, rfl⟩ := Prod.mk.inj same
      exact admitted
    · intro closed
      exact ⟨⟨_, _, ends, iff.mpr (closed falls)⟩, loop_ends⟩
  · constructor
    · intro _ falls
      exact absurd falls stays
    · intro _
      exact ⟨⟨result, record, ends, ok⟩, loop_ends⟩

end Results

end RouteHistory

/-! ### A fallback whose circuit is open -/

def coldIntent : DeliveryIntent where
  executionId := "exec-1"
  messageId := "msg-1"
  sessionId := "session"
  traceId := "trace"
  source := "client"
  targetAgentType := "cold"
  policy := .failFast
  command := .askAgent
    { header := { messageId := "msg-1", sessionId := "session", traceId := "trace" }
      content := .string "work"
      nonEmpty := by decide }

def warmState : ControlState where
  held
    | .controlPlaneAgentFallback "cold" =>
        some (.json (.object [("selected_agent_type", .string "warm")]))
    | .controlPlaneAgentCircuit "warm" => some (.json (.object [("state", .string "OPEN")]))
    | .workerOnlineLease "worker" => some (.presence ⟨some "token", 1, ""⟩)
    | _ => none
  members agentType := if agentType = "warm" then ["worker"] else []

def warmHistory : RouteHistory coldIntent where
  state _ := warmState
  clock reading := reading
  steady reading := by omega
  sleeps poll _ := by omega

/-- A delivery that its own circuit would stop is let through as the fallback of another. -/
theorem open_fallback_admitted : ¬warmHistory.Admits := by
  rintro ⟨⟨result, record, ends, admitted⟩, _⟩
  have circuit := admitted.circuit "warm"
  have ran : (warmHistory.ran (prepareDelivery coldIntent) {}).1.1 =
      .ok { status := .fallbackToOtherAgentType
            streamName := some (.ctrlStream "warm")
            selectedAgentType := "warm" } := by
    decide +kernel
  rw [ends] at ran
  obtain rfl := Except.ok.inj ran
  have shut : warmState.circuitOpen "warm" = true := by decide +kernel
  exact absurd (circuit rfl) (by simp [warmHistory, shut])

end ByFramework
