import ByFramework.ClientCore
import ByFramework.Redis.Store
import ByFramework.RegisteredFirst

/-!
What a client's resume leaves of the execution it continues, over a Redis that may fail any
command but the look-up of that execution.
-/

namespace ByFramework

open Async

/-- A command is carried out; one that may fail reports an error instead, carried out or not. -/
def flakyServe (mayFail : RedisCommand → Prop) (store : RedisStore) :
    (op : Op) → op.Reply → RedisStore → Prop
  | .redis command, reply, after => store.exec command = (reply, after) ∨
      (mayFail command ∧ (∃ error, reply = .error error) ∧
        (after = store ∨ after = (store.exec command).2))
  | _, _, after => after = store

abbrev flaky (mayFail : RedisCommand → Prop) : Setting effects RedisStore :=
  .alone (flakyServe mayFail)

/-- What may fail while the look-ups in the registry of a session succeed. -/
def besideLookups (sessionId : String) : RedisCommand → Prop
  | .hget key _ => key ≠ .sessionRegistry sessionId
  | _ => True

inductive ClientCall where
  | ofMessage (interceptors : List (RequestParams → RequestParams)) (params : SendMessageParams)
  | ofCommand (command : GatewayCommand) (streamName : Option Key)

/-- Whether the call reports success, unless it throws. -/
def ClientCall.program : ClientCall → Proc Unit Bool
  | .ofMessage interceptors params => do
      let response ← sendMessage interceptors params
      pure response.success
  | .ofCommand command streamName => do
      sendCommand command streamName
      pure true

/-- The call carries a resume of the message that the execution handles. -/
def ClientCall.Resumes (record : ExecutionRecord) : ClientCall → Prop
  | .ofMessage interceptors params =>
      let request := params.request interceptors
      request.actionType = actionResume ∧ request.sessionId = record.sessionId ∧
        params.messageId = record.messageId ∧ params.messageId ≠ ""
  | .ofCommand command _ => command.isResume = true ∧
      command.header.sessionId = record.sessionId ∧ command.header.messageId = record.messageId

structure LookedUp (record : ExecutionRecord) (store : RedisStore) : Prop where
  sessionId : record.sessionId ≠ ""
  executionId : record.executionId ≠ ""
  mapped : store.field (.sessionRegistry record.sessionId) (msgMapField record.messageId) =
    some (.text record.executionId)
  stored : store.field (.sessionRegistry record.sessionId) (execField record.executionId) =
    some (.execution record)

/-- The call left what the caller's reply depends on; one that failed left the status as well. -/
structure Undamaged (record : ExecutionRecord) (outcome : Except JsError Bool)
    (store : RedisStore) : Prop where
  mapped : store.field (.sessionRegistry record.sessionId) (msgMapField record.messageId) =
    some (.text record.executionId)
  stored : ∃ left : ExecutionRecord,
    store.field (.sessionRegistry record.sessionId) (execField record.executionId) =
      some (.execution left) ∧
    left.executionId = record.executionId ∧
    left.sourceAgentType = record.sourceAgentType ∧
    left.parentMessageId = record.parentMessageId ∧
    left.taskGroupId = record.taskGroupId ∧
    left.metadata = record.metadata ∧
    (outcome ≠ .ok true → left.status = record.status)

def onlineAt (store : RedisStore) (agentType : String) : Bool :=
  (store.members (.agentTypeMembers agentType)).any fun workerId =>
    showsOnline (store.text (.workerOnlineLease workerId))

def circuitOpen (store : RedisStore) (agentType : String) : Bool :=
  upper (textField (foundFields (store.text (.controlPlaneAgentCircuit agentType))) ["state"]) =
    "OPEN"

def quotaSpent (store : RedisStore) (userCode : String) : Bool :=
  userCode ≠ "" && (foundFields (store.text (.controlPlaneUserQuota userCode))).lookup
    "available" = some (.bool false)

def unreachable (store : RedisStore) (agentType : String) : Bool :=
  let selected := fallbackType (foundFields (store.text (.controlPlaneAgentFallback agentType)))
  !onlineAt store agentType && (selected = "" || !onlineAt store selected)

def turnsAway (store : RedisStore) (policy : RoutePolicy) (agentType userCode : String) : Bool :=
  !policy.isSupported || circuitOpen store agentType || quotaSpent store userCode ||
    ((policy = .failFast || policy = .wakeAndWait) && unreachable store agentType)

def ReadsRefused (params : SendMessageParams) (request : RequestParams)
    (record : ExecutionRecord) : Prop :=
  record.status = AgentState.failed ∧
  record.sourceAgentType = orElseText params.sourceAgentType clientSourceAgentType ∧
  record.parentMessageId = request.parentMessageId ∧
  record.taskGroupId = "" ∧ record.metadata = []

def RequestParams.MakesResume (request : RequestParams) : Prop :=
  textField (mergedPayload request.extraPayload) ["status"] ≠ "" ∨
    hasContent (formatContent request.content) = true

/-- The route turns the resume away, and what is recorded of it differs from the record. -/
def ClientCall.Overwrites (record : ExecutionRecord) (store : RedisStore) : ClientCall → Prop
  | .ofMessage interceptors params =>
      let request := params.request interceptors
      params.targetWorkerId = "" ∧ request.MakesResume ∧
        turnsAway store (defaultRoutePolicy params) request.targetAgentType request.userCode ∧
        ¬ ReadsRefused params request record
  | .ofCommand _ _ => False

/-! ### Programs over such a Redis -/

section

variable {σ : Type} {mayFail : RedisCommand → Prop} {memory : σ} {store : RedisStore}

theorem wp_redis_flaky {command : RedisCommand}
    {post : Except JsError command.Reply → σ → RedisStore → Prop}
    (carried : post ((store.exec command).1.mapError redisError) memory (store.exec command).2)
    (failed : mayFail command → ∀ error after,
      after = store ∨ after = (store.exec command).2 → post (.error error) memory after) :
    (redis command : Proc σ _).wp (flaky mayFail) post memory store := by
  refine wp_redis ?_
  rintro later rfl -
  refine ⟨trivial, ?_⟩
  rintro reply after served - last rfl -
  rcases served with executed | ⟨fails, ⟨error, rfl⟩, left⟩
  · rw [executed] at carried
    exact carried
  · exact failed fails _ _ left

structure AlikeOffStreams (store later : RedisStore) : Prop where
  text : later.text = store.text
  hash : later.hash = store.hash
  members : later.members = store.members

theorem AlikeOffStreams.refl (store : RedisStore) : AlikeOffStreams store store :=
  ⟨rfl, rfl, rfl⟩

/-- What routing shows: `returned` of its result, or a failed command. -/
def Shows {α : Type} (mayFail : RedisCommand → Prop) (store : RedisStore) (memory : σ)
    (returned : α → Prop) (outcome : Except JsError α) (after : σ) (later : RedisStore) : Prop :=
  after = memory ∧ AlikeOffStreams store later ∧
    match outcome with
    | .ok value => returned value
    | .error _ => ∃ command, mayFail command

theorem wp_read_flaky {α : Type} {command : RedisCommand} {next : command.Reply → Proc σ α}
    {returned : α → Prop} {later : RedisStore} {value : command.Reply}
    (alike : AlikeOffStreams store later) (read : later.exec command = (.ok value, later))
    (rest : (next value).wp (flaky mayFail) (Shows mayFail store memory returned) memory later) :
    (redis command >>= next).wp (flaky mayFail) (Shows mayFail store memory returned) memory
      later := by
  refine Task.wp_alone_bind (wp_redis_flaky ?_ ?_)
  · rw [read]
    exact rest
  · intro fails error after left
    rw [read, or_self] at left
    subst left
    exact ⟨rfl, alike, command, fails⟩

theorem wp_xadd_flaky {α : Type} {key : Key} {entry : Value} {next : Nat → Proc σ α}
    {returned : α → Prop} {later : RedisStore} (alike : AlikeOffStreams store later)
    (rest : ∀ count after, AlikeOffStreams store after →
      (next count).wp (flaky mayFail) (Shows mayFail store memory returned) memory after) :
    (redis (.xadd key entry) >>= next).wp (flaky mayFail) (Shows mayFail store memory returned)
      memory later := by
  have appended : AlikeOffStreams store (later.exec (.xadd key entry)).2 :=
    ⟨alike.text, alike.hash, alike.members⟩
  refine Task.wp_alone_bind (wp_redis_flaky (rest _ _ appended) ?_)
  intro fails error after left
  refine ⟨rfl, ?_, _, fails⟩
  rcases left with rfl | rfl
  · exact alike
  · exact appended

theorem shows_pure {α : Type} {value : α} {returned : α → Prop} {later : RedisStore}
    (alike : AlikeOffStreams store later) (holds : returned value) :
    (pure value : Proc σ α).wp (flaky mayFail) (Shows mayFail store memory returned) memory
      later :=
  Task.wp_alone_pure ⟨rfl, alike, holds⟩

theorem shows_bind {α β : Type} {task : Proc σ β} {next : β → Proc σ α} {found : β → Prop}
    {returned : α → Prop} {later : RedisStore}
    (first : task.wp (flaky mayFail) (Shows mayFail store memory found) memory later)
    (rest : ∀ value after, AlikeOffStreams store after → found value →
      (next value).wp (flaky mayFail) (Shows mayFail store memory returned) memory after) :
    (task >>= next).wp (flaky mayFail) (Shows mayFail store memory returned) memory later := by
  refine Task.wp_alone_bind (Task.wp_mono first ?_)
  rintro outcome _ after - ⟨rfl, alike, shown⟩
  cases outcome with
  | ok value => exact rest value after alike shown
  | error error => exact ⟨rfl, alike, shown⟩

theorem shows_mono {α : Type} {task : Proc σ α} {found returned : α → Prop} {later : RedisStore}
    (first : task.wp (flaky mayFail) (Shows mayFail store memory found) memory later)
    (weaker : ∀ value, found value → returned value) :
    task.wp (flaky mayFail) (Shows mayFail store memory returned) memory later := by
  refine Task.wp_mono first ?_
  rintro outcome _ after - ⟨rfl, alike, shown⟩
  cases outcome with
  | ok value => exact ⟨rfl, alike, weaker value shown⟩
  | error error => exact ⟨rfl, alike, shown⟩

theorem shows_dateNow {later : RedisStore} (alike : AlikeOffStreams store later) :
    (dateNow : Proc σ Int).wp (flaky mayFail) (Shows mayFail store memory fun _ => True) memory
      later := by
  refine Task.wp_alone_await ?_
  rintro now _ rfl
  exact ⟨rfl, alike, trivial⟩

theorem shows_readJson {later : RedisStore} (alike : AlikeOffStreams store later) (key : Key) :
    (readJson key : Proc σ _).wp (flaky mayFail)
      (Shows mayFail store memory (· = foundFields (store.text key))) memory later := by
  refine wp_read_flaky alike rfl ?_
  rw [alike.text]
  split
  · rename_i fields found
    refine shows_pure alike ?_
    rw [found]
    rfl
  · rename_i other
    refine shows_pure alike ?_
    unfold foundFields
    split
    · rename_i fields found
      exact absurd found (other fields)
    · rfl

theorem shows_isWorkerOnline {later : RedisStore} (alike : AlikeOffStreams store later)
    (workerId : String) :
    (isWorkerOnline workerId : Proc σ Bool).wp (flaky mayFail)
      (Shows mayFail store memory (· = showsOnline (store.text (.workerOnlineLease workerId))))
      memory later := by
  refine wp_read_flaky alike rfl ?_
  rw [alike.text]
  exact shows_pure alike rfl

theorem shows_onlineOf {later : RedisStore} (alike : AlikeOffStreams store later)
    (workers : List String) :
    (onlineOf workers : Proc σ _).wp (flaky mayFail) (Shows mayFail store memory
      (· = workers.filter fun workerId => showsOnline (store.text (.workerOnlineLease workerId))))
      memory later := by
  induction workers generalizing later with
  | nil => exact shows_pure alike rfl
  | cons workerId rest ih =>
      refine shows_bind (shows_isWorkerOnline alike workerId) fun online after alike here => ?_
      refine shows_bind (ih alike) fun others after alike there => ?_
      refine shows_pure alike ?_
      rw [here, there, List.filter_cons]

theorem shows_hasOnlineAgentType {later : RedisStore} (alike : AlikeOffStreams store later)
    (agentType : String) :
    (hasOnlineAgentType agentType : Proc σ _).wp (flaky mayFail) (Shows mayFail store memory
      fun online => (!online.isEmpty) = onlineAt store agentType) memory later := by
  refine wp_read_flaky alike rfl ?_
  rw [alike.members]
  refine shows_mono (shows_onlineOf alike _) ?_
  rintro _ rfl
  rw [onlineAt, Bool.eq_iff_iff]
  simp

/-- A route turns the message away exactly if `refuses`. -/
abbrev Refuses (refuses : Bool) (availability : AvailabilityResult) : Prop :=
  availability.status = .reject ↔ refuses = true

theorem shows_quotaRejection {later : RedisStore} (alike : AlikeOffStreams store later)
    (userCode : String) :
    (quotaRejection userCode : Proc σ _).wp (flaky mayFail) (Shows mayFail store memory
      fun rejection => (∀ result ∈ rejection, result.status = .reject) ∧
        rejection.isSome = quotaSpent store userCode) memory later := by
  unfold quotaRejection quotaSpent
  split
  · rename_i unnamed
    exact shows_pure alike ⟨fun _ none => (by cases none), by simp [unnamed]⟩
  · rename_i named
    refine shows_bind (shows_readJson alike _) ?_
    rintro _ after alike rfl
    split
    · rename_i spent
      refine shows_pure alike ⟨?_, by simp [named, spent]⟩
      rintro result ⟨⟩
      rfl
    · rename_i other
      refine shows_pure alike ⟨fun _ none => (by cases none), ?_⟩
      have unspent : ¬ (foundFields (store.text (.controlPlaneUserQuota userCode))).lookup
          "available" = some (.bool false) := fun spent => other spent
      simp [unspent]

theorem shows_publishWakeup {later : RedisStore} (alike : AlikeOffStreams store later)
    (intent : DeliveryIntent) :
    (publishWakeup intent : Proc σ PUnit).wp (flaky mayFail)
      (Shows mayFail store memory fun _ => True) memory later :=
  wp_xadd_flaky alike fun _ _ alike => shows_pure alike trivial

theorem shows_queuePending {later : RedisStore} (alike : AlikeOffStreams store later)
    (intent : DeliveryIntent) :
    (queuePending intent : Proc σ _).wp (flaky mayFail)
      (Shows mayFail store memory (Refuses false)) memory later :=
  wp_xadd_flaky alike fun _ _ alike => shows_pure alike (by simp [Refuses])

theorem shows_awaitWakeup {later : RedisStore} (alike : AlikeOffStreams store later)
    {intent : DeliveryIntent} (offline : onlineAt store intent.targetAgentType = false)
    (deadline : Int) (polls : Nat) :
    (awaitWakeup intent deadline polls : Proc σ _).wp (flaky mayFail)
      (Shows mayFail store memory (Refuses true)) memory later := by
  induction polls generalizing later with
  | zero => exact shows_pure alike (by simp [Refuses, wakeupTimedOut, reject])
  | succ polls ih =>
      refine shows_bind (shows_dateNow alike) fun now after alike _ => ?_
      split
      · refine shows_bind (shows_hasOnlineAgentType alike _) fun online after alike found => ?_
        rw [found, offline]
        exact shows_bind (shows_dateNow alike) fun _ _ alike _ => ih alike
      · exact shows_pure alike (by simp [Refuses, wakeupTimedOut, reject])

theorem shows_wakeAndWait {later : RedisStore} (alike : AlikeOffStreams store later)
    {intent : DeliveryIntent} (offline : onlineAt store intent.targetAgentType = false) :
    (wakeAndWait intent : Proc σ _).wp (flaky mayFail)
      (Shows mayFail store memory (Refuses true)) memory later := by
  refine shows_bind (shows_publishWakeup alike intent) fun _ after alike _ => ?_
  dsimp only
  split
  · exact shows_pure alike (by simp [Refuses, wakeupTimedOut, reject])
  · exact shows_bind (shows_dateNow alike) fun _ _ alike _ => shows_awaitWakeup alike offline _ _

theorem shows_routeOffline {later : RedisStore} (alike : AlikeOffStreams store later)
    {intent : DeliveryIntent} (offline : onlineAt store intent.targetAgentType = false)
    (supported : intent.policy.isSupported = true) (routed : intent.policy ≠ .sendAnyway) :
    (routeOffline intent : Proc σ _).wp (flaky mayFail) (Shows mayFail store memory
      (Refuses (intent.policy = .failFast || intent.policy = .wakeAndWait))) memory later := by
  unfold routeOffline
  cases policy : intent.policy with
  | failFast => exact shows_pure alike (by simp [Refuses, reject])
  | queueOnly => exact shows_queuePending alike intent
  | wakeAndQueue =>
      exact shows_bind (shows_publishWakeup alike intent) fun _ _ alike _ =>
        shows_queuePending alike intent
  | wakeAndWait => exact shows_wakeAndWait alike offline
  | sendAnyway => exact absurd policy routed
  | unsupported name =>
      rw [policy] at supported
      cases supported

theorem shows_fallback {later : RedisStore} (alike : AlikeOffStreams store later)
    (selected : String) :
    (if selected = "" then pure [] else hasOnlineAgentType selected : Proc σ _).wp (flaky mayFail)
      (Shows mayFail store memory fun online =>
        (!online.isEmpty) = (selected ≠ "" && onlineAt store selected)) memory later := by
  split
  · rename_i unset
    exact shows_pure alike (by simp [unset])
  · rename_i set
    exact shows_mono (shows_hasOnlineAgentType alike _) fun online found => by simp [found, set]

theorem shows_routeOnline {later : RedisStore} (alike : AlikeOffStreams store later)
    {intent : DeliveryIntent} (supported : intent.policy.isSupported = true)
    (routed : intent.policy ≠ .sendAnyway) :
    (routeOnline intent : Proc σ _).wp (flaky mayFail) (Shows mayFail store memory
      (Refuses ((intent.policy = .failFast || intent.policy = .wakeAndWait) &&
        unreachable store intent.targetAgentType))) memory later := by
  unfold routeOnline
  refine shows_bind (shows_hasOnlineAgentType alike _) fun online after alike found => ?_
  rw [found]
  cases here : onlineAt store intent.targetAgentType with
  | true => exact shows_pure alike (by simp [Refuses, deliver, unreachable, here])
  | false =>
      refine shows_bind (shows_readJson alike _) ?_
      rintro fallback after alike rfl
      refine shows_bind (shows_fallback alike _) fun reachable after alike found => ?_
      rw [found]
      split
      · rename_i elsewhere
        refine shows_pure alike ?_
        simp only [ne_eq, decide_not, Bool.and_eq_true, Bool.not_eq_eq_eq_not, Bool.not_true,
          decide_eq_false_iff_not] at elsewhere
        simp [Refuses, unreachable, fallbackType, elsewhere]
      · rename_i nowhere
        have lost : unreachable store intent.targetAgentType = true := by
          simp only [ne_eq, decide_not, Bool.and_eq_true, Bool.not_eq_eq_eq_not, Bool.not_true,
            decide_eq_false_iff_not, not_and, Bool.not_eq_true] at nowhere
          unfold unreachable fallbackType
          rw [here]
          exact (Bool.or_eq_true _ _).mpr
            ((Decidable.em _).imp (fun unset => decide_eq_true unset) fun set => by
              rw [nowhere set]
              rfl)
        rw [lost, Bool.and_true]
        exact shows_routeOffline alike here supported routed

theorem shows_prepareDelivery {later : RedisStore} (alike : AlikeOffStreams store later)
    (intent : DeliveryIntent) :
    (prepareDelivery intent : Proc σ _).wp (flaky mayFail) (Shows mayFail store memory
      (Refuses (turnsAway store intent.policy intent.targetAgentType intent.userCode))) memory
      later := by
  unfold prepareDelivery
  cases supported : intent.policy.isSupported with
  | false => exact shows_pure alike (by simp [Refuses, reject, turnsAway, supported])
  | true =>
      refine shows_bind (shows_readJson alike _) ?_
      rintro circuit after alike rfl
      split
      · rename_i tripped
        refine shows_pure alike ?_
        simp [Refuses, reject, turnsAway, circuitOpen, tripped]
      · rename_i closed
        have unbroken : circuitOpen store intent.targetAgentType = false := by
          simpa [circuitOpen] using closed
        refine shows_bind (shows_quotaRejection alike _) ?_
        rintro rejection after alike ⟨rejects, spent⟩
        cases rejection with
        | some rejection =>
            refine shows_pure alike ?_
            have refused := rejects rejection rfl
            simp [Refuses, refused, turnsAway, ← spent]
        | none =>
            dsimp only
            split
            · rename_i anyway
              refine shows_pure alike ?_
              simp [Refuses, deliver, turnsAway, ← spent, unbroken, anyway, RoutePolicy.isSupported]
            · rename_i routed
              refine shows_mono (shows_routeOnline alike supported routed) fun result refuses => ?_
              simpa [Refuses, turnsAway, ← spent, unbroken, supported] using refuses

/-- The mapping stands, and the record is the old one or, surely without failures, the new one. -/
structure Rewritten (mayFail : RedisCommand → Prop) (record execution : ExecutionRecord)
    (store : RedisStore) : Prop where
  mapped : store.field (.sessionRegistry record.sessionId) (msgMapField record.messageId) =
    some (.text record.executionId)
  stored : store.field (.sessionRegistry record.sessionId) (execField record.executionId) =
      some (.execution record) ∧ (∃ command, mayFail command) ∨
    ∃ now, store.field (.sessionRegistry record.sessionId) (execField record.executionId) =
      some (.execution (execution.initialized now))

theorem field_hset {key : Key} {field other : String} {value : Value} :
    (store.exec (.hset key [(field, value)])).2.field key other =
      if other = field then some value else store.field key other := by
  simp [Redis.Store.exec, Redis.Store.field, Redis.upsertAll, Redis.lookup_upsert]

theorem wp_send_flaky {command : RedisCommand} {fact : RedisStore → Prop}
    (carried : fact (store.exec command).2) (failed : mayFail command → fact store) :
    (do let _ ← await (.redis command) : Proc σ PUnit).wp (flaky mayFail)
      (fun outcome after later => outcome = .ok ⟨⟩ ∧ after = memory ∧ fact later) memory store := by
  refine Task.wp_alone_bind (Task.wp_alone_await ?_)
  intro reply after served
  rcases served with executed | ⟨fails, -, rfl | rfl⟩
  · rw [executed] at carried
    exact Task.wp_alone_pure ⟨rfl, rfl, carried⟩
  · exact Task.wp_alone_pure ⟨rfl, rfl, failed fails⟩
  · exact Task.wp_alone_pure ⟨rfl, rfl, carried⟩

theorem wp_pipeline_flaky {command : RedisCommand} {rest : List RedisCommand}
    {fact : RedisStore → Prop} (carried : fact (store.exec command).2)
    (failed : mayFail command → fact store)
    (kept : ∀ later ∈ rest, ∀ before : RedisStore, fact before → fact (before.exec later).2) :
    (pipeline (command :: rest) : Proc σ PUnit).wp (flaky mayFail) (fun _ _ later => fact later)
      memory store := by
  refine Task.wp_alone_bind (Task.wp_alone_bind (Task.wp_mono (wp_send_flaky carried failed) ?_))
  rintro _ _ middle - ⟨rfl, rfl, holds⟩
  refine Task.wp_mono (Task.wp_alone_forEach (fun _ later => fact later) rest ?_ holds) ?_
  · intro later member memory before holds
    refine Task.wp_mono (wp_send_flaky (kept later member before holds) fun _ => holds) ?_
    exact fun _ _ _ _ sent => ⟨sent.1, sent.2.2⟩
  · rintro _ memory last - ⟨rfl, holds⟩
    refine Task.wp_alone_bind (Task.wp_alone_await ?_)
    intro reply after same
    have kept : fact after := by
      rw [show after = last from same]
      exact holds
    cases reply with
    | ok _ => exact Task.wp_alone_pure kept
    | error error => exact Task.wp_alone_throw kept

theorem initializeExecution_rewrites {record execution : ExecutionRecord}
    (mapped : store.field (.sessionRegistry record.sessionId) (msgMapField record.messageId) =
      some (.text record.executionId))
    (stored : store.field (.sessionRegistry record.sessionId) (execField record.executionId) =
      some (.execution record))
    (session : execution.sessionId = record.sessionId)
    (executionId : execution.executionId = record.executionId)
    (message : execution.messageId = record.messageId) :
    (initializeExecution execution : Proc σ PUnit).wp (flaky mayFail)
      (fun _ _ later => Rewritten mayFail record execution later) memory store := by
  have apart := execField_ne_msgMapField record.executionId record.messageId
  refine Task.wp_alone_bind (Task.wp_alone_await ?_)
  intro now after same
  obtain rfl : store = after := Eq.symm same
  change (writeMappedExecution (execution.initialized now)).wp _ _ _ _
  have ids : (execution.initialized now).sessionId = record.sessionId ∧
      (execution.initialized now).executionId = record.executionId ∧
      (execution.initialized now).messageId = record.messageId :=
    ⟨session, executionId, message⟩
  generalize made : execution.initialized now = written at ids ⊢
  unfold writeMappedExecution
  rw [ids.1, ids.2.1, ids.2.2]
  refine wp_pipeline_flaky ?_ (fun fails => ⟨mapped, .inl ⟨stored, _, fails⟩⟩) ?_
  · constructor
    · rw [field_hset, if_neg apart.symm]
      exact mapped
    · exact .inr ⟨now, by rw [field_hset, if_pos rfl, made]⟩
  · intro later member before holds
    simp only [List.mem_cons, List.not_mem_nil, or_false] at member
    rcases member with rfl | rfl
    · constructor
      · rw [field_hset, if_pos rfl]
      · rw [field_hset, if_neg apart]
        exact holds.stored
    · have unchanged : (before.exec (.expire (.sessionRegistry record.sessionId)
          defaultSessionTtl)).2.hash = before.hash := by
        simp only [Redis.Store.exec]
        split <;> rfl
      constructor
      · rw [Redis.Store.field, unchanged]
        exact holds.mapped
      · simp only [Redis.Store.field, unchanged]
        exact holds.stored

/-! ### What a call leaves -/

theorem LookedUp.alike {record : ExecutionRecord} {later : RedisStore}
    (found : LookedUp record store) (same : later.hash = store.hash) : LookedUp record later := by
  refine ⟨found.sessionId, found.executionId, ?_, ?_⟩
  · rw [Redis.Store.field, same]
    exact found.mapped
  · rw [Redis.Store.field, same]
    exact found.stored

theorem wp_hget_flaky {key : Key} {name : String} {value : Option Value}
    (held : store.field key name = value) (succeeds : ¬ mayFail (.hget key name)) :
    (redis (.hget key name) : Proc σ _).wp (flaky mayFail) (fun outcome after later =>
      outcome = .ok value ∧ after = memory ∧ later = store) memory store :=
  wp_redis_flaky ⟨congrArg Except.ok held, rfl, rfl⟩ fun fails => absurd fails succeeds

theorem lookupResumedExecution_finds {record : ExecutionRecord} (found : LookedUp record store)
    (succeeds : ∀ field, ¬ mayFail (.hget (.sessionRegistry record.sessionId) field)) :
    (lookupResumedExecution record.messageId record.sessionId : Proc σ _).wp (flaky mayFail)
      (fun outcome after later => outcome = .ok (some record) ∧ after = memory ∧ later = store)
      memory store := by
  refine Task.wp_alone_tryCatch ?_
  unfold getExecutionByMessageId
  rw [if_neg found.sessionId]
  refine Task.wp_alone_bind (Task.wp_mono (wp_hget_flaky found.mapped (succeeds _)) ?_)
  rintro _ _ _ - ⟨rfl, rfl, rfl⟩
  change (if record.executionId = "" then pure none else
    getExecution record.executionId record.sessionId : Proc σ _).wp _ _ _ _
  rw [if_neg found.executionId]
  unfold getExecution
  rw [if_neg found.sessionId]
  refine Task.wp_alone_bind (Task.wp_mono (wp_hget_flaky found.stored (succeeds _)) ?_)
  rintro _ _ _ - ⟨rfl, rfl, rfl⟩
  exact Task.wp_alone_pure ⟨rfl, rfl, rfl⟩

/-- What is recorded of a message of these parameters that is turned away. -/
structure RefusalOf (params : SendMessageParams) (request : RequestParams)
    (record execution : ExecutionRecord) : Prop where
  executionId : execution.executionId = record.executionId
  status : execution.status = AgentState.failed
  sourceAgentType : execution.sourceAgentType =
    orElseText params.sourceAgentType clientSourceAgentType
  parentMessageId : execution.parentMessageId = request.parentMessageId
  taskGroupId : execution.taskGroupId = ""
  metadata : execution.metadata = []

/-- The record stands, or the message was turned away and reported as failed. -/
def Leaves (mayFail : RedisCommand → Prop) (params : SendMessageParams) (request : RequestParams)
    (record : ExecutionRecord) (turned : Prop) (outcome : Except JsError Bool)
    (later : RedisStore) : Prop :=
  (LookedUp record later ∧ ((∀ command, ¬ mayFail command) → ¬ turned)) ∨
  (turned ∧ outcome ≠ .ok true ∧ ∃ execution, RefusalOf params request record execution ∧
    Rewritten mayFail record execution later)

structure Dispatch.Continues (dispatch : Dispatch) (record : ExecutionRecord) : Prop where
  resumed : dispatch.resumed = some record
  executionId : dispatch.executionId = record.executionId
  messageId : dispatch.command.header.messageId = record.messageId
  sessionId : dispatch.request.sessionId = record.sessionId

theorem publish_leaves {dispatch : Dispatch} {record : ExecutionRecord}
    (continues : dispatch.Continues record) (found : LookedUp record store)
    (streamName : Key) (targetAgentType routeStatus : String) (queued : Bool) {turned : Prop}
    (accepted : (∀ command, ¬ mayFail command) → ¬ turned) :
    (dispatch.publish streamName targetAgentType routeStatus queued : Proc σ _).wp (flaky mayFail)
      (fun outcome _ later => Leaves mayFail dispatch.params dispatch.request record turned
        (outcome.map SendMessageResponse.success) later) memory store := by
  unfold Dispatch.publish
  rw [continues.resumed]
  refine Task.wp_alone_bind (Task.wp_alone_when (fun none => by cases none) fun _ => ?_)
  refine Task.wp_alone_bind (Task.wp_alone_when (fun _ => ?_) fun _ =>
    Task.wp_alone_pure (.inl ⟨found, accepted⟩))
  refine Task.wp_alone_bind (wp_redis_flaky
    (Task.wp_alone_pure (Task.wp_alone_pure (.inl ⟨found.alike rfl, accepted⟩))) ?_)
  rintro - error after left
  refine .inl ⟨?_, accepted⟩
  rcases left with rfl | rfl
  · exact found
  · exact found.alike rfl

theorem reject_leaves {dispatch : Dispatch} {record : ExecutionRecord}
    (continues : dispatch.Continues record) (found : LookedUp record store)
    (availability : AvailabilityResult) {turned : Prop} (away : turned) :
    (dispatch.reject availability : Proc σ _).wp (flaky mayFail)
      (fun outcome _ later => Leaves mayFail dispatch.params dispatch.request record turned
        (outcome.map SendMessageResponse.success) later) memory store := by
  refine Task.wp_alone_bind (Task.wp_alone_tryCatch (Task.wp_mono (initializeExecution_rewrites
    found.mapped found.stored continues.sessionId continues.executionId continues.messageId) ?_))
  intro outcome after later _ rewritten
  have left : Leaves mayFail dispatch.params dispatch.request record turned (.ok false) later :=
    .inr ⟨away, by simp, _, ⟨continues.executionId, rfl, rfl, rfl, rfl, rfl⟩, rewritten⟩
  cases outcome with
  | ok _ => exact Task.wp_alone_pure left
  | error error => exact Task.wp_alone_pure (Task.wp_alone_pure left)

theorem route_leaves {dispatch : Dispatch} {record : ExecutionRecord}
    (continues : dispatch.Continues record) (found : LookedUp record store) :
    (dispatch.route : Proc σ _).wp (flaky mayFail)
      (fun outcome _ later => Leaves mayFail dispatch.params dispatch.request record
        (dispatch.params.targetWorkerId = "" ∧ turnsAway store dispatch.routePolicy
          dispatch.request.targetAgentType dispatch.request.userCode = true)
        (outcome.map SendMessageResponse.success) later) memory store := by
  unfold Dispatch.route
  split
  · rename_i direct
    exact publish_leaves continues found _ _ _ _ fun _ away => direct away.1
  · rename_i addressed
    have unaddressed : dispatch.params.targetWorkerId = "" := by simpa using addressed
    refine Task.wp_alone_bind (Task.wp_mono
      (shows_prepareDelivery (.refl store) dispatch.intent) ?_)
    rintro outcome _ middle - ⟨rfl, alike, shown⟩
    have kept := found.alike alike.hash
    cases outcome with
    | error error =>
        obtain ⟨command, fails⟩ := shown
        exact .inl ⟨kept, fun never => absurd fails (never command)⟩
    | ok availability =>
        have refuses : availability.status = .reject ↔ turnsAway store dispatch.routePolicy
          dispatch.request.targetAgentType dispatch.request.userCode = true := shown
        dsimp only
        split
        · rename_i rejected
          exact reject_leaves continues kept _ ⟨unaddressed, refuses.mp rejected⟩
        · rename_i accepted
          exact publish_leaves continues kept _ _ _ _ fun _ away =>
            accepted (refuses.mpr away.2)

theorem directRouteError_leaves (params : SendMessageParams) :
    (directRouteError params : Proc σ _).wp (flaky mayFail) (fun outcome after later =>
      after = memory ∧ AlikeOffStreams store later ∧ ∃ refusal, outcome = .ok refusal ∧
        ∀ response ∈ refusal, params.targetWorkerId ≠ "" ∧ response.success = false)
      memory store := by
  unfold directRouteError
  split
  · exact Task.wp_alone_pure ⟨rfl, .refl store, none, rfl, fun _ none => by cases none⟩
  · rename_i asked
    have direct : params.targetWorkerId ≠ "" := fun none => asked (.inl none)
    refine Task.wp_alone_bind (Task.wp_mono (Task.wp_alone_attempt
      (shows_isWorkerOnline (.refl store) params.targetWorkerId)) ?_)
    rintro _ _ later - ⟨inner, rfl, rfl, alike, -⟩
    dsimp only
    split
    · exact Task.wp_alone_pure ⟨rfl, alike, none, rfl, fun _ none => by cases none⟩
    · refine Task.wp_alone_pure ⟨rfl, alike, _, rfl, ?_⟩
      rintro _ ⟨⟩
      exact ⟨direct, rfl⟩
    · refine Task.wp_alone_pure ⟨rfl, alike, _, rfl, ?_⟩
      rintro _ ⟨⟩
      exact ⟨direct, rfl⟩

theorem Leaves.congr {params : SendMessageParams} {request : RequestParams}
    {record : ExecutionRecord} {turned same : Prop} {outcome : Except JsError Bool}
    {later : RedisStore} (leaves : Leaves mayFail params request record turned outcome later)
    (iff : turned ↔ same) : Leaves mayFail params request record same outcome later := by
  rcases leaves with ⟨found, accepted⟩ | ⟨away, rest⟩
  · exact .inl ⟨found, fun never held => accepted never (iff.mpr held)⟩
  · exact .inr ⟨iff.mp away, rest⟩

def TurnedAway (store : RedisStore) (params : SendMessageParams) (request : RequestParams) : Prop :=
  params.targetWorkerId = "" ∧ request.MakesResume ∧
    turnsAway store (defaultRoutePolicy params) request.targetAgentType request.userCode = true

theorem wp_traceId_flaky (params : SendMessageParams) :
    (if params.traceId = "" then plainId else pure params.traceId : Proc σ String).wp
      (flaky mayFail) (fun outcome after later => (∃ traceId, outcome = .ok traceId) ∧
        after = memory ∧ later = store) memory store := by
  split
  · refine Task.wp_alone_bind (Task.wp_alone_await ?_)
    intro id after same
    exact Task.wp_alone_pure ⟨⟨_, rfl⟩, rfl, same⟩
  · exact Task.wp_alone_pure ⟨⟨_, rfl⟩, rfl, rfl⟩

theorem turnsAway_alike {later : RedisStore} (alike : AlikeOffStreams store later)
    (policy : RoutePolicy) (agentType userCode : String) :
    turnsAway later policy agentType userCode = turnsAway store policy agentType userCode := by
  simp only [turnsAway, circuitOpen, quotaSpent, unreachable, onlineAt, alike.text, alike.members]

theorem buildGatewayCommand_resume (request : RequestParams) (header : MessageHeader) :
    match buildGatewayCommand actionResume header (formatContent request.content)
        (mergedPayload request.extraPayload) with
    | .ok command => request.MakesResume ∧ command.header = header
    | .error _ => ¬ request.MakesResume := by
  unfold buildGatewayCommand ResumeCommand.make
  rw [if_pos rfl]
  split
  · rename_i command built
    split at built
    · cases built
      exact ⟨‹_›, rfl⟩
    · cases built
  · rename_i error built
    split at built
    · cases built
    · assumption

theorem dispatchExecutionId_known {record : ExecutionRecord} (found : LookedUp record store) :
    (dispatchExecutionId (some record) : Proc σ _) = pure record.executionId :=
  if_neg found.executionId

theorem sendMessage_leaves {record : ExecutionRecord} (found : LookedUp record store)
    (succeeds : ∀ field, ¬ mayFail (.hget (.sessionRegistry record.sessionId) field))
    {interceptors : List (RequestParams → RequestParams)} {params : SendMessageParams}
    (resumes : (ClientCall.ofMessage interceptors params).Resumes record) :
    (sendMessage interceptors params : Proc σ _).wp (flaky mayFail)
      (fun outcome _ later => Leaves mayFail params (params.request interceptors) record
        (TurnedAway store params (params.request interceptors))
        (outcome.map SendMessageResponse.success) later) memory store := by
  obtain ⟨action, session, message, named⟩ := resumes
  unfold sendMessage
  generalize params.request interceptors = request at action session ⊢
  rw [if_neg named]
  simp only [pure_bind]
  refine Task.wp_alone_bind (Task.wp_mono (wp_traceId_flaky params) ?_)
  rintro _ _ _ - ⟨⟨traceId, rfl⟩, rfl, rfl⟩
  refine Task.wp_alone_bind (Task.wp_mono (directRouteError_leaves params) ?_)
  rintro _ _ middle - ⟨rfl, alike, refusal, rfl, direct⟩
  have kept := found.alike alike.hash
  cases refusal with
  | some response =>
      obtain ⟨addressed, failed⟩ := direct response rfl
      refine Task.wp_alone_pure (.inl ⟨kept, fun _ away => addressed away.1⟩)
  | none =>
      have builds := buildGatewayCommand_resume request
        (sentHeader params request params.messageId traceId)
      rw [action]
      dsimp only
      generalize buildGatewayCommand actionResume _ _ _ = built at builds ⊢
      cases built with
      | error error =>
          exact Task.wp_alone_throw (.inl ⟨kept, fun _ away => builds away.2.1⟩)
      | ok command =>
          obtain ⟨makes, header⟩ := builds
          change (resumedBy request params.messageId >>= _).wp _ _ _ _
          unfold resumedBy
          rw [if_pos action, message, session]
          refine Task.wp_alone_bind (Task.wp_mono (lookupResumedExecution_finds kept succeeds) ?_)
          rintro _ _ _ - ⟨rfl, rfl, rfl⟩
          dsimp only
          rw [dispatchExecutionId_known kept, pure_bind]
          have continues : Dispatch.Continues ⟨params, request, command, defaultRoutePolicy params,
              some record, record.executionId⟩ record := by
            refine ⟨rfl, rfl, ?_, session⟩
            rw [header]
            exact message
          refine Task.wp_mono (route_leaves continues kept) fun outcome _ later _ leaves => ?_
          refine leaves.congr ?_
          rw [turnsAway_alike alike]
          exact ⟨fun away => ⟨away.1, makes, away.2⟩, fun away => ⟨away.1, away.2.2⟩⟩

theorem ofMessage_leaves {record : ExecutionRecord} {store : RedisStore}
    {mayFail : RedisCommand → Prop} (found : LookedUp record store)
    (succeeds : ∀ field, ¬ mayFail (.hget (.sessionRegistry record.sessionId) field))
    {interceptors : List (RequestParams → RequestParams)} {params : SendMessageParams}
    (resumes : (ClientCall.ofMessage interceptors params).Resumes record) :
    (ClientCall.ofMessage interceptors params).program.wp (flaky mayFail)
      (fun outcome _ later => Leaves mayFail params (params.request interceptors) record
        (TurnedAway store params (params.request interceptors)) outcome later) () store := by
  refine Task.wp_alone_bind (Task.wp_mono (sendMessage_leaves found succeeds resumes) ?_)
  rintro outcome _ later - leaves
  cases outcome with
  | ok response => exact Task.wp_alone_pure leaves
  | error error => exact leaves

theorem wp_publish_flaky {record : ExecutionRecord} (found : LookedUp record store) (key : Key)
    (entry : Value) :
    (do let _ ← redis (.xadd key entry) : Proc σ PUnit).wp (flaky mayFail)
      (fun _ _ later => LookedUp record later) memory store := by
  refine Task.wp_alone_bind (wp_redis_flaky (Task.wp_alone_pure (found.alike rfl)) ?_)
  rintro - error after (rfl | rfl)
  · exact found
  · exact found.alike rfl

theorem sendCommand_keeps {record : ExecutionRecord} (found : LookedUp record store)
    (succeeds : ∀ field, ¬ mayFail (.hget (.sessionRegistry record.sessionId) field))
    {command : GatewayCommand} {streamName : Option Key}
    (resumes : (ClientCall.ofCommand command streamName).Resumes record) :
    (sendCommand command streamName : Proc σ PUnit).wp (flaky mayFail)
      (fun _ _ later => LookedUp record later) memory store := by
  obtain ⟨resume, session, message⟩ := resumes
  unfold sendCommand
  dsimp only
  split
  · split
    · cases resume
    · unfold trackSentCommand resumedExecution
      rw [if_pos resume, message, session]
      refine Task.wp_alone_bind (Task.wp_alone_bind
        (Task.wp_mono (lookupResumedExecution_finds found succeeds) ?_))
      rintro _ _ _ - ⟨rfl, rfl, rfl⟩
      exact Task.wp_alone_pure (wp_publish_flaky found _ _)
  · exact wp_publish_flaky found _ _

theorem RefusalOf.undamaged_iff {params : SendMessageParams} {request : RequestParams}
    {record execution : ExecutionRecord} (refusal : RefusalOf params request record execution)
    {outcome : Except JsError Bool} (failed : outcome ≠ .ok true) {now : Int}
    (mapped : store.field (.sessionRegistry record.sessionId) (msgMapField record.messageId) =
      some (.text record.executionId))
    (stored : store.field (.sessionRegistry record.sessionId) (execField record.executionId) =
      some (.execution (execution.initialized now))) :
    Undamaged record outcome store ↔ ReadsRefused params request record := by
  obtain ⟨executionId, status, source, parent, group, metadata⟩ := refusal
  constructor
  · rintro ⟨-, left, found, -, sameSource, sameParent, sameGroup, sameMetadata, sameStatus⟩
    rw [stored] at found
    cases found
    exact ⟨(sameStatus failed).symm.trans status, sameSource.symm.trans source,
      sameParent.symm.trans parent, sameGroup.symm.trans group, sameMetadata.symm.trans metadata⟩
  · rintro ⟨sameStatus, sameSource, sameParent, sameGroup, sameMetadata⟩
    exact ⟨mapped, _, stored, executionId, source.trans sameSource.symm,
      parent.trans sameParent.symm, group.trans sameGroup.symm, metadata.trans sameMetadata.symm,
      fun _ => status.trans sameStatus.symm⟩

theorem LookedUp.undamaged {record : ExecutionRecord} (found : LookedUp record store)
    (outcome : Except JsError Bool) : Undamaged record outcome store :=
  ⟨found.mapped, record, found.stored, rfl, rfl, rfl, rfl, rfl, fun _ => rfl⟩

end

theorem redisAnswer_flaky (mayFail : RedisCommand → Prop) (store : RedisStore) (op : Op) :
    flakyServe mayFail store op (redisAnswer store op).1 (redisAnswer store op).2 := by
  cases op with
  | redis command => exact .inl rfl
  | _ => rfl

/-- A resume leaves the execution it continues undamaged, whatever fails but the look-up of it,
exactly if it does not overwrite it with a refusal of its own. -/
theorem resume_keeps_execution_iff {record : ExecutionRecord} {store : RedisStore}
    (found : LookedUp record store) {call : ClientCall} (resumes : call.Resumes record) :
    call.program.wp (flaky (besideLookups record.sessionId))
        (fun outcome _ after => Undamaged record outcome after) () store ↔
      ¬ call.Overwrites record store := by
  have succeeds : ∀ field, ¬ besideLookups record.sessionId
      (.hget (.sessionRegistry record.sessionId) field) := fun _ apart => apart rfl
  cases call with
  | ofCommand command streamName =>
      refine ⟨fun _ => id, fun _ => ?_⟩
      refine Task.wp_alone_bind (Task.wp_mono (sendCommand_keeps found succeeds resumes) ?_)
      rintro outcome _ later - kept
      cases outcome with
      | ok _ => exact Task.wp_alone_pure (kept.undamaged _)
      | error error => exact kept.undamaged _
  | ofMessage interceptors params =>
      constructor
      · rintro undamaged ⟨unaddressed, makes, refuses, differs⟩
        -- a Redis that fails nothing refuses the message and records that
        have kept := Prog.wp_run undamaged (redisAnswer_flaky _)
        have left := Prog.wp_run (ofMessage_leaves found (fun _ fails => fails) resumes)
          (redisAnswer_flaky fun _ => False)
        rcases left with ⟨-, accepted⟩ | ⟨-, failed, execution, refusal, mapped, stored⟩
        · exact accepted (fun _ fails => fails) ⟨unaddressed, makes, refuses⟩
        · rcases stored with ⟨-, _, fails⟩ | ⟨now, stored⟩
          · exact fails
          · exact differs ((refusal.undamaged_iff failed mapped stored).mp kept)
      · intro spares
        refine Task.wp_mono (ofMessage_leaves found succeeds resumes) ?_
        rintro outcome _ later - (⟨kept, -⟩ | ⟨away, failed, execution, refusal, rewritten⟩)
        · exact kept.undamaged _
        · have reads : ReadsRefused params (params.request interceptors) record := by
            by_contra differs
            exact spares ⟨away.1, away.2.1, away.2.2, differs⟩
          rcases rewritten.stored with ⟨stored, -⟩ | ⟨now, stored⟩
          · exact ⟨rewritten.mapped, record, stored, rfl, rfl, rfl, rfl, rfl, fun _ => rfl⟩
          · exact (refusal.undamaged_iff failed rewritten.mapped stored).mpr reads

def suspendedExecution : ExecutionRecord :=
  { executionId := "exec-1"
    messageId := "msg-1"
    sessionId := "session"
    traceId := "trace"
    sourceAgentType := "caller"
    targetAgentType := "callee"
    status := AgentState.waitingUser }

def suspendedStore : RedisStore :=
  ([.hset (.sessionRegistry "session") [(msgMapField "msg-1", .text "exec-1")],
    .hset (.sessionRegistry "session") [(execField "exec-1", .execution suspendedExecution)]] :
      List RedisCommand).foldl (fun store command => (store.exec command).2) .empty

def resumeOffline : ClientCall :=
  .ofMessage []
    { targetAgentType := "callee"
      sessionId := "session"
      content := .string "answer"
      actionType := actionResume
      messageId := "msg-1" }

theorem suspendedExecution_lookedUp : LookedUp suspendedExecution suspendedStore := by
  refine ⟨?_, ?_, ?_, ?_⟩ <;> decide

def resumeOnWorker : ClientCall :=
  .ofMessage []
    { targetAgentType := "callee"
      sessionId := "session"
      content := .string "answer"
      actionType := actionResume
      messageId := "msg-1"
      targetWorkerId := "worker" }

theorem resume_keeps_suspendedExecution :
    (resumeOnWorker.program.wp (flaky (besideLookups "session"))
        (fun outcome _ after => Undamaged suspendedExecution outcome after) () suspendedStore ↔
      ¬ resumeOnWorker.Overwrites suspendedExecution suspendedStore) ∧
    ¬ resumeOnWorker.Overwrites suspendedExecution suspendedStore := by
  have resumes : resumeOnWorker.Resumes suspendedExecution := ⟨rfl, rfl, rfl, by decide⟩
  constructor
  · exact resume_keeps_execution_iff suspendedExecution_lookedUp resumes
  · rintro ⟨unaddressed, -⟩
    exact absurd unaddressed (by decide)

def Value.sourceAndStatus : Value → String × String
  | .execution record => (record.sourceAgentType, record.status)
  | _ => ("", "")

def ranOffline : (Except JsError Bool × Unit) × RedisStore :=
  Prog.run redisAnswer (resumeOffline.program.start ()) suspendedStore

/-- The refused resume of a suspended execution makes the client its caller, and it failed. -/
theorem refused_resume_overwrites :
    resumeOffline.Resumes suspendedExecution ∧ LookedUp suspendedExecution suspendedStore ∧
    (ranOffline.2.field (.sessionRegistry "session") (execField "exec-1")).map
      Value.sourceAndStatus = some (clientSourceAgentType, AgentState.failed) ∧
    ¬ Undamaged suspendedExecution ranOffline.1.1 ranOffline.2 := by
  have left : (ranOffline.2.field (.sessionRegistry "session") (execField "exec-1")).map
      Value.sourceAndStatus = some (clientSourceAgentType, AgentState.failed) := by
    decide +kernel
  refine ⟨⟨rfl, rfl, rfl, by decide⟩, suspendedExecution_lookedUp, left, ?_⟩
  rintro ⟨-, kept, stored, -, sameSource, -⟩
  have found : ranOffline.2.field (.sessionRegistry "session") (execField "exec-1") =
      some (.execution kept) := stored
  rw [found] at left
  have source : kept.sourceAgentType = clientSourceAgentType :=
    congrArg Prod.fst (Option.some.inj left)
  rw [sameSource] at source
  exact absurd source (by decide)

end ByFramework
