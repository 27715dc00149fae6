import ByFramework.Context

/-!
Which waits the commands of a dispatch let others see, and that publishing a call shows only a wait
that is listed, unless routing holds the call back.
-/

namespace ByFramework

open Async

def askedWait (command : AskAgentCommand) : Option WaitIndexMember :=
  if command.waitForReply then some command.header.asks else none

def isPromptForm (message : DataMessage) : Bool :=
  message.data.lookup "contentType" = some (.string SseMessageType.taskUserInput)

def revealedWait : RedisCommand → Option WaitIndexMember
  | .xadd (.ctrlStream _) (.command (.askAgent command)) => askedWait command
  | .xadd (.ctrlStream _) (.command (.resume reply)) => some reply.header.answers
  | .xadd .controlPlaneDeliveryPendingStream (.pendingDelivery _ intent) =>
      match intent.command with
      | .askAgent command => askedWait command
      | _ => none
  | .xadd (.sessionDataStream _) (.event message) =>
      if isPromptForm message then some ⟨message.sessionId, message.messageId, "", ""⟩ else none
  | _ => none

/-- The members that a sequence of writes has left in the wait index. -/
abbrev WaitList := List (Key × String)

namespace WaitList

def holds (listed : WaitList) (wait : WaitIndexMember) : Prop :=
  (waitIndexKey wait.sessionId, encodeMember wait) ∈ listed

def note (listed : WaitList) : (op : Op) → op.Reply → WaitList
  | .redis (.zadd key member _), .ok _ => (key, member) :: listed
  | .redis (.zrem key member), .ok _ => listed.filter (· ≠ (key, member))
  | _, _ => listed

end WaitList

abbrev Weather := (op : Op) → op.Reply → Prop

/-- There is always an answer, and Redis carries out what it is sent. -/
structure Faultless (weather : Weather) : Prop where
  answers : ∀ op, ∃ reply, weather op reply
  succeeds : ∀ command reply, weather (.redis command) reply → ∃ value, reply = .ok value

def listing (weather : Weather) (listed : WaitList) (op : Op) (reply : op.Reply)
    (after : WaitList) : Prop :=
  weather op reply ∧ after = listed.note op reply

def revealsListed (listed : WaitList) : Op → Prop
  | .redis command => ∀ wait, revealedWait command = some wait → listed.holds wait
  | _ => True

def registering (weather : Weather) : Setting effects WaitList :=
  .alone (listing weather) revealsListed

def foundFields : Option Value → JsonObject
  | some (.json (.object fields)) => fields
  | _ => []

def MayRead (weather : Weather) (key : Key) (fields : JsonObject) : Prop :=
  ∃ found, weather (.redis (.get key)) (.ok found) ∧ foundFields found = fields

def showsOnline (lease : Option Value) : Bool :=
  let presence := decodeWorkerPresence lease
  Option.isSome lease && (presence.isLegacy || decide (0 < presence.lastSeen))

def MayBeOffline (weather : Weather) (agentType : String) : Prop :=
  ∃ workers : List String,
    weather (.redis (.smembers (.agentTypeMembers agentType))) (.ok workers) ∧
      ∀ workerId ∈ workers, ∃ lease,
        weather (.redis (.get (.workerOnlineLease workerId))) (.ok lease) ∧
          showsOnline lease = false

def fallbackType (fields : JsonObject) : String :=
  textField fields ["selected_agent_type", "agent_type", "target_agent_type"]

/-- The router may find that it has to keep a command until a worker shows up. -/
structure HeldBack (weather : Weather) (policy : RoutePolicy) (target userCode : String) :
    Prop where
  queues : policy = .queueOnly ∨ policy = .wakeAndQueue
  circuit : ∃ fields, MayRead weather (.controlPlaneAgentCircuit target) fields ∧
    upper (textField fields ["state"]) ≠ "OPEN"
  quota : userCode = "" ∨ ∃ fields, MayRead weather (.controlPlaneUserQuota userCode) fields ∧
    fields.lookup "available" ≠ some (.bool false)
  offline : MayBeOffline weather target
  fallback : ∃ fields, MayRead weather (.controlPlaneAgentFallback target) fields ∧
    (fallbackType fields = "" ∨ MayBeOffline weather (fallbackType fields))

section

variable {σ : Type} {weather : Weather} {memory : σ} {listed : WaitList}

theorem wp_redis_listing (faultless : Faultless weather) {command : RedisCommand}
    {post : Except JsError command.Reply → σ → WaitList → Prop}
    (revealed : ∀ wait, revealedWait command = some wait → listed.holds wait)
    (holds : ∀ value, weather (.redis command) (.ok value) →
      post (.ok value) memory (listed.note (.redis command) (.ok value))) :
    (redis command : Proc σ _).wp (registering weather) post memory listed := by
  refine wp_redis ?_
  rintro later rfl -
  refine ⟨revealed, ?_⟩
  rintro reply after ⟨answered, rfl⟩ - last rfl -
  obtain ⟨value, rfl⟩ := faultless.succeeds command reply answered
  exact holds value answered

theorem wp_readJson_listing (faultless : Faultless weather) (key : Key) :
    (readJson key : Proc σ _).wp (registering weather) (fun outcome after later =>
      after = memory ∧ later = listed ∧ ∃ fields, outcome = .ok fields ∧
        MayRead weather key fields) memory listed := by
  refine Task.wp_alone_bind (wp_redis_listing faultless (by rintro wait ⟨⟩)
    fun found answered => ?_)
  have read : MayRead weather key (foundFields found) := ⟨found, answered, rfl⟩
  dsimp only
  split
  · exact Task.wp_alone_pure ⟨rfl, rfl, _, rfl, read⟩
  · rename_i other
    have none : foundFields found = [] := by
      unfold foundFields
      split
      · rename_i fields
        exact absurd rfl (other fields)
      · rfl
    exact Task.wp_alone_pure ⟨rfl, rfl, [], rfl, none ▸ read⟩

theorem wp_isWorkerOnline_listing (faultless : Faultless weather) (workerId : String) :
    (isWorkerOnline workerId : Proc σ Bool).wp (registering weather) (fun outcome after later =>
      after = memory ∧ later = listed ∧ ∃ lease, outcome = .ok (showsOnline lease) ∧
        weather (.redis (.get (.workerOnlineLease workerId))) (.ok lease)) memory listed := by
  refine Task.wp_alone_bind (wp_redis_listing faultless (by rintro wait ⟨⟩)
    fun lease answered => ?_)
  exact Task.wp_alone_pure ⟨rfl, rfl, lease, rfl, answered⟩

theorem wp_onlineOf_listing (faultless : Faultless weather) (workers : List String) :
    (onlineOf workers : Proc σ _).wp (registering weather) (fun outcome after later =>
      after = memory ∧ later = listed ∧ ∃ online, outcome = .ok online ∧ (online = [] →
        ∀ workerId ∈ workers, ∃ lease,
          weather (.redis (.get (.workerOnlineLease workerId))) (.ok lease) ∧
            showsOnline lease = false)) memory listed := by
  induction workers with
  | nil => exact Task.wp_alone_pure ⟨rfl, rfl, [], rfl, by simp⟩
  | cons workerId rest ih =>
      refine Task.wp_alone_bind (Task.wp_mono (wp_isWorkerOnline_listing faultless workerId) ?_)
      rintro _ _ _ - ⟨rfl, rfl, lease, rfl, answered⟩
      refine Task.wp_alone_bind (Task.wp_mono ih ?_)
      rintro _ _ _ - ⟨rfl, rfl, online, rfl, offline⟩
      refine Task.wp_alone_pure ⟨rfl, rfl, _, rfl, ?_⟩
      intro none other listedHere
      split at none
      · cases none
      · rename_i away
        rcases List.mem_cons.mp listedHere with rfl | inRest
        · exact ⟨lease, answered, by simpa using away⟩
        · exact offline none other inRest

theorem wp_hasOnlineAgentType_listing (faultless : Faultless weather) (agentType : String) :
    (hasOnlineAgentType agentType : Proc σ _).wp (registering weather) (fun outcome after later =>
      after = memory ∧ later = listed ∧ ∃ online, outcome = .ok online ∧
        (online = [] → MayBeOffline weather agentType)) memory listed := by
  refine Task.wp_alone_bind (wp_redis_listing faultless (by rintro wait ⟨⟩)
    fun workers answered => ?_)
  refine Task.wp_mono (wp_onlineOf_listing faultless workers) ?_
  rintro _ _ _ - ⟨rfl, rfl, online, rfl, offline⟩
  exact ⟨rfl, rfl, online, rfl, fun none => ⟨workers, answered, offline none⟩⟩

theorem wp_quotaRejection_listing (faultless : Faultless weather) (userCode : String) :
    (quotaRejection userCode : Proc σ _).wp (registering weather) (fun outcome after later =>
      after = memory ∧ later = listed ∧ ∃ rejection, outcome = .ok rejection ∧
        (rejection = none → userCode = "" ∨ ∃ fields,
          MayRead weather (.controlPlaneUserQuota userCode) fields ∧
            fields.lookup "available" ≠ some (.bool false))) memory listed := by
  unfold quotaRejection
  split
  · exact Task.wp_alone_pure ⟨rfl, rfl, none, rfl, fun _ => .inl ‹_›⟩
  · refine Task.wp_alone_bind (Task.wp_mono (wp_readJson_listing faultless _) ?_)
    rintro _ _ _ - ⟨rfl, rfl, fields, rfl, read⟩
    dsimp only
    split
    · exact Task.wp_alone_pure ⟨rfl, rfl, _, rfl, by simp⟩
    · rename_i other
      exact Task.wp_alone_pure ⟨rfl, rfl, none, rfl, fun _ => .inr ⟨fields, read, other⟩⟩

/-! ### Steps that reveal no wait -/

def still (listed : WaitList) : Contract effects :=
  .only fun op => revealsListed listed op ∧ ∀ reply, listed.note op reply = listed

theorem still_of_background (op : Op) (quiet : op.isBackground = true) :
    (still listed).allowed op := by
  cases op with
  | redis command =>
      have unrevealing : revealedWait command = none ∧
          ∀ reply, listed.note (.redis command) reply = listed := by
        cases command <;> first | exact ⟨rfl, fun _ => rfl⟩ | cases quiet
      refine ⟨fun wait revealed => ?_, unrevealing.2⟩
      rw [unrevealing.1] at revealed
      cases revealed
  | _ => exact ⟨trivial, fun _ => rfl⟩

theorem wp_still {α : Type} {task : Proc σ α} {inv : σ → Prop}
    (uses : task.Uses (still listed) inv) (held : inv memory) :
    task.wp (registering weather) (fun _ after later => inv after ∧ later = listed) memory
      listed := by
  refine Task.wp_of_uses ?_ ?_ uses held rfl
  · rintro before later same rfl -
    exact same
  · rintro before op rfl - ⟨allowed, kept⟩
    refine ⟨allowed, ?_⟩
    rintro reply after ⟨_, rfl⟩ -
    exact ⟨trivial, kept reply⟩

theorem wp_background_still {α : Type} {task : Proc σ α}
    (uses : task.Uses background (fun after => after = memory)) :
    task.wp (registering weather) (fun _ after later => after = memory ∧ later = listed) memory
      listed :=
  wp_still (uses_of_background uses still_of_background) rfl

/-! ### Routing -/

theorem publishWakeup_listing (faultless : Faultless weather) (intent : DeliveryIntent) :
    (publishWakeup intent : Proc σ PUnit).wp (registering weather) (fun outcome after later =>
      outcome = .ok ⟨⟩ ∧ after = memory ∧ later = listed) memory listed :=
  Task.wp_alone_bind (wp_redis_listing faultless (by rintro wait ⟨⟩) fun _ _ =>
    Task.wp_alone_pure ⟨rfl, rfl, rfl⟩)

def DeliveryIntent.wait (intent : DeliveryIntent) : Option WaitIndexMember :=
  match intent.command with
  | .askAgent command => askedWait command
  | _ => none

theorem queuePending_listing (faultless : Faultless weather) {intent : DeliveryIntent}
    (unasked : intent.wait = none) :
    (queuePending intent : Proc σ _).wp (registering weather) (fun _ after later =>
      after = memory ∧ later = listed) memory listed := by
  refine Task.wp_alone_bind (wp_redis_listing faultless (fun wait revealed => ?_) fun _ _ =>
    Task.wp_alone_pure ⟨rfl, rfl⟩)
  have same : revealedWait (.xadd .controlPlaneDeliveryPendingStream
      (.pendingDelivery (.ctrlStream intent.targetAgentType) intent)) = intent.wait := rfl
  rw [same, unasked] at revealed
  cases revealed

theorem wakeAndWait_listing (faultless : Faultless weather) (intent : DeliveryIntent) :
    (wakeAndWait intent : Proc σ _).wp (registering weather) (fun _ after later =>
      after = memory ∧ later = listed) memory listed := by
  refine Task.wp_alone_bind (Task.wp_mono (publishWakeup_listing faultless intent) ?_)
  rintro _ _ _ - ⟨rfl, rfl, rfl⟩
  dsimp only
  split
  · exact Task.wp_alone_pure ⟨rfl, rfl⟩
  · refine wp_background_still (Task.uses_bind dateNow_background fun now => ?_)
    exact background_of_reading (awaitWakeup_reading _ _ _)

theorem routeOffline_listing (faultless : Faultless weather) {intent : DeliveryIntent}
    (unheld : intent.wait ≠ none →
      ¬ (intent.policy = .queueOnly ∨ intent.policy = .wakeAndQueue)) :
    (routeOffline intent : Proc σ _).wp (registering weather) (fun _ after later =>
      after = memory ∧ later = listed) memory listed := by
  have unasked (queues : intent.policy = .queueOnly ∨ intent.policy = .wakeAndQueue) :
      intent.wait = none := by
    by_contra asked
    exact unheld asked queues
  unfold routeOffline
  split
  · exact Task.wp_alone_pure ⟨rfl, rfl⟩
  · rename_i policy
    exact queuePending_listing faultless (unasked (.inl policy))
  · rename_i policy
    refine Task.wp_alone_bind (Task.wp_mono (publishWakeup_listing faultless intent) ?_)
    rintro _ _ _ - ⟨rfl, rfl, rfl⟩
    exact queuePending_listing faultless (unasked (.inr policy))
  · exact wakeAndWait_listing faultless intent
  · exact Task.wp_alone_pure ⟨rfl, rfl⟩

theorem prepareDelivery_listing (faultless : Faultless weather) {intent : DeliveryIntent}
    (unheld : intent.wait ≠ none →
      ¬ HeldBack weather intent.policy intent.targetAgentType intent.userCode) :
    (prepareDelivery intent : Proc σ _).wp (registering weather) (fun _ after later =>
      after = memory ∧ later = listed) memory listed := by
  unfold prepareDelivery
  split
  · exact Task.wp_alone_pure ⟨rfl, rfl⟩
  refine Task.wp_alone_bind (Task.wp_mono (wp_readJson_listing faultless _) ?_)
  rintro _ _ _ - ⟨rfl, rfl, circuit, rfl, readCircuit⟩
  dsimp only
  split
  · exact Task.wp_alone_pure ⟨rfl, rfl⟩
  rename_i closed
  refine Task.wp_alone_bind (Task.wp_mono (wp_quotaRejection_listing faultless _) ?_)
  rintro _ _ _ - ⟨rfl, rfl, rejection, rfl, available⟩
  cases rejection with
  | some rejection => exact Task.wp_alone_pure ⟨rfl, rfl⟩
  | none =>
      dsimp only
      split
      · exact Task.wp_alone_pure ⟨rfl, rfl⟩
      refine Task.wp_alone_bind (Task.wp_mono (wp_hasOnlineAgentType_listing faultless _) ?_)
      rintro _ _ _ - ⟨rfl, rfl, online, rfl, offline⟩
      dsimp only
      split
      · exact Task.wp_alone_pure ⟨rfl, rfl⟩
      rename_i away
      have targetAway : online = [] := by simpa using away
      refine Task.wp_alone_bind (Task.wp_mono (wp_readJson_listing faultless _) ?_)
      rintro _ _ _ - ⟨rfl, rfl, fallback, rfl, readFallback⟩
      refine Task.wp_alone_bind ?_
      have routed (kept : σ) (later : WaitList) (reachable : List String)
          (unreachable : reachable = [] →
            fallbackType fallback = "" ∨ MayBeOffline weather (fallbackType fallback)) :
          (if !reachable.isEmpty then
            pure
              { status := .fallbackToOtherAgentType
                streamName := some (.ctrlStream (fallbackType fallback))
                selectedAgentType := fallbackType fallback }
          else routeOffline intent : Proc σ _).wp (registering weather) (fun _ after last =>
            after = kept ∧ last = later) kept later := by
        split
        · exact Task.wp_alone_pure ⟨rfl, rfl⟩
        · rename_i none
          refine routeOffline_listing faultless fun asked queues => unheld asked ?_
          exact
            { queues := queues
              circuit := ⟨circuit, readCircuit, closed⟩
              quota := available rfl
              offline := offline targetAway
              fallback := ⟨fallback, readFallback, unreachable (by simpa using none)⟩ }
      split
      · rename_i blank
        exact Task.wp_alone_pure (routed _ _ [] fun _ => .inl blank)
      · refine Task.wp_mono (wp_hasOnlineAgentType_listing faultless _) ?_
        rintro _ _ _ - ⟨rfl, rfl, reachable, rfl, unreachable⟩
        exact routed _ _ reachable fun none => .inr (unreachable none)

theorem registerWait_listing (faultless : Faultless weather) (params : RegisterWaitParams) :
    (registerWait params : Proc σ PUnit).wp (registering weather) (fun outcome after later =>
      outcome = .ok ⟨⟩ ∧ after = memory ∧ listed ⊆ later ∧ later.holds params.entry) memory
      listed := by
  refine Task.wp_alone_tryCatch (Task.wp_alone_bind (Task.wp_alone_issue trivial ?_))
  rintro now _ ⟨_, rfl⟩
  refine Task.wp_alone_bind (wp_redis_listing faultless (by rintro wait ⟨⟩) fun _ _ => ?_)
  refine Task.wp_alone_tryCatch (Task.wp_alone_bind
    (wp_redis_listing faultless (by rintro wait ⟨⟩) fun _ _ => Task.wp_alone_pure ?_))
  exact ⟨rfl, rfl, List.subset_cons_self _ _, List.mem_cons_self⟩

theorem revealedWait_ask {key : Key} {command : AskAgentCommand} {wait : WaitIndexMember}
    (revealed : revealedWait (.xadd key (.command (.askAgent command))) = some wait) :
    askedWait command = some wait := by
  cases key with
  | ctrlStream agentType => exact revealed
  | _ => cases revealed

theorem deliverCall_listing (faultless : Faultless weather) (input : CallAgentPublishInput)
    (command : AskAgentCommand) (record : ExecutionRecord) (availability : AvailabilityResult)
    (asks : ∀ wait, askedWait command = some wait →
      input.waitForReply = true ∧ (callWait input record).entry = wait) :
    (deliverCall input command record availability : Proc σ _).wp (registering weather)
      (fun _ after later => after = memory ∧ listed ⊆ later) memory listed := by
  have registered : (Task.when input.waitForReply (registerWait (callWait input record)) :
      Proc σ PUnit).wp (registering weather) (fun outcome after later => outcome = .ok ⟨⟩ ∧
        after = memory ∧ listed ⊆ later ∧ ∀ wait, askedWait command = some wait →
          later.holds wait) memory listed := by
    refine Task.wp_alone_when (fun _ => ?_) fun silent => ?_
    · refine Task.wp_mono (registerWait_listing faultless _) ?_
      rintro _ _ _ - ⟨rfl, rfl, grown, held⟩
      exact ⟨rfl, rfl, grown, fun wait asked => (asks wait asked).2 ▸ held⟩
    · exact ⟨rfl, rfl, List.Subset.refl _, fun wait asked => absurd (asks wait asked).1 silent⟩
  refine Task.wp_alone_bind (Task.wp_mono registered ?_)
  rintro _ _ _ - ⟨rfl, rfl, grown, held⟩
  refine Task.wp_alone_bind (Task.wp_mono
    (wp_background_still (initializeExecution_background _)) ?_)
  rintro outcome _ _ - ⟨rfl, rfl⟩
  cases outcome with
  | error error => exact ⟨rfl, grown⟩
  | ok done =>
      refine Task.wp_alone_bind (Task.wp_alone_when (fun _ => ?_) fun _ =>
        Task.wp_alone_pure ⟨rfl, grown⟩)
      refine Task.wp_alone_bind (wp_redis_listing faultless (fun wait revealed => ?_)
        fun _ _ => Task.wp_alone_pure (Task.wp_alone_pure ⟨rfl, grown⟩))
      have asked := revealedWait_ask revealed
      exact held wait asked

theorem publishCall_listing (faultless : Faultless weather) (input : CallAgentPublishInput)
    (messageId : String) (unheld : input.waitForReply = true →
      hasContent input.content = true →
        ¬ HeldBack weather input.routePolicy input.targetAgentType input.userCode) :
    (publishCall input messageId : Proc σ _).wp (registering weather)
      (fun _ after later => after = memory ∧ listed ⊆ later) memory listed := by
  have kept : listed ⊆ listed := List.Subset.refl _
  unfold publishCall
  dsimp only
  generalize headed : askAgentHeader input messageId
    (orElseText input.parentMessageId input.defaultParentMessageId) = header
  generalize made : AskAgentCommand.make header input.content input.waitForReply
    (dropWaitForReply input.extraPayload) = outcome
  cases outcome with
  | error error =>
      refine Task.wp_alone_bind ?_
      exact Task.wp_alone_throw ⟨rfl, kept⟩
  | ok command =>
      obtain ⟨sameHeader, waits, content⟩ := AskAgentCommand.make_fields made
      refine Task.wp_alone_bind (Task.wp_alone_pure ?_)
      refine Task.wp_alone_bind (Task.wp_mono (wp_background_still (shortId_background _)) ?_)
      rintro outcome _ _ - ⟨rfl, rfl⟩
      cases outcome with
      | error error => exact ⟨rfl, kept⟩
      | ok executionId =>
          refine Task.wp_alone_bind (Task.wp_mono (prepareDelivery_listing faultless ?_) ?_)
          · intro asked
            refine unheld ?_ content
            rw [← waits]
            by_contra silent
            exact asked (if_neg silent)
          · rintro outcome _ _ - ⟨rfl, rfl⟩
            cases outcome with
            | error error => exact ⟨rfl, kept⟩
            | ok availability =>
                dsimp only
                split
                · refine Task.wp_alone_bind (Task.wp_mono
                    (wp_background_still (initializeExecution_background _)) ?_)
                  rintro outcome _ _ - ⟨rfl, rfl⟩
                  cases outcome with
                  | error error => exact ⟨rfl, kept⟩
                  | ok done => exact Task.wp_alone_pure ⟨rfl, kept⟩
                · refine deliverCall_listing faultless _ _ _ _ fun wait asked => ?_
                  unfold askedWait at asked
                  split at asked
                  · rename_i asks
                    cases asked
                    rw [waits] at asks
                    rw [sameHeader]
                    exact ⟨asks, by subst headed; rfl⟩
                  · cases asked

theorem publishCallAgent_listing (faultless : Faultless weather) (input : CallAgentPublishInput)
    (unheld : input.waitForReply = true → hasContent input.content = true →
      ¬ HeldBack weather input.routePolicy input.targetAgentType input.userCode) :
    (publishCallAgent input : Proc σ _).wp (registering weather)
      (fun _ after later => after = memory ∧ listed ⊆ later) memory listed := by
  refine Task.wp_alone_bind ?_
  split
  · refine Task.wp_mono (wp_background_still (shortId_background _)) ?_
    rintro outcome _ _ - ⟨rfl, rfl⟩
    cases outcome with
    | error error => exact ⟨rfl, List.Subset.refl _⟩
    | ok messageId => exact publishCall_listing faultless input messageId unheld
  · exact Task.wp_alone_pure (publishCall_listing faultless input _ unheld)

theorem emitLayout_still {message : DataMessage} {params : SseLayoutParams} {inv : σ → Prop}
    (backed : params.contentType = SseMessageType.taskUserInput →
      listed.holds ⟨message.sessionId, message.messageId, "", ""⟩) :
    (emitLayout message params : Proc σ PUnit).Uses (still listed) inv := by
  have asks (id : String) (created timestamp : Int) : revealsListed listed (.redis (.xadd
      (.sessionDataStream message.sessionId) (.event { message with
        data := sseLayout params id created, timestamp := timestamp }))) := by
    intro wait revealed
    simp only [revealedWait] at revealed
    split at revealed
    · rename_i prompt
      cases revealed
      refine backed ?_
      simpa [isPromptForm, sseLayout, List.lookup_cons] using prompt
    · cases revealed
  unfold emitLayout buildSseLayout
  simp only [bind_assoc]
  refine Task.uses_bind (uses_of_background plainId_background still_of_background) fun id => ?_
  refine Task.uses_bind (uses_of_background dateNow_background still_of_background) fun now => ?_
  rw [pure_bind]
  refine Task.uses_bind (uses_of_background dateNow_background still_of_background) fun time => ?_
  refine uses_pipeline (fun command called => ?_) ⟨trivial, fun _ => rfl⟩
  simp only [List.mem_cons, List.not_mem_nil, or_false] at called
  rcases called with rfl | rfl
  · exact ⟨asks _ _ _, fun _ => rfl⟩
  · exact ⟨by rintro wait ⟨⟩, fun _ => rfl⟩

end

end ByFramework
