import ByFramework.DispatchPlaces

/-!
Which agent type the places of one dispatch name: the command, its record, the stream it goes to
and the report.
-/

namespace ByFramework

open Async

inductive TargetedCall where
  | message (interceptors : List (RequestParams → RequestParams)) (params : SendMessageParams)
  | call (input : CallAgentPublishInput)

def SendMessageResponse.reported (response : SendMessageResponse) : Option String :=
  if response.success then some response.targetAgentType else none

namespace TargetedCall

def program : TargetedCall → Proc Unit (Option String)
  | .message interceptors params => do
      let response ← sendMessage interceptors params
      pure response.reported
  | .call input => do
      let result ← publishCallAgent input
      pure (some result.targetAgentType)

def worker : TargetedCall → String
  | .message _ params => params.targetWorkerId
  | .call _ => ""

def target : TargetedCall → String
  | .message interceptors params => (params.request interceptors).targetAgentType
  | .call input => input.targetAgentType

def Resumes : TargetedCall → Prop
  | .message interceptors params => (params.request interceptors).actionType = actionResume
  | .call _ => False

end TargetedCall

def controlStreamOf (workerId agentType : String) : Key :=
  if workerId = "" then .ctrlStream agentType else .workerCtrlStream workerId

def Place.Names (workerId agentType : String) (places : List Place) : Place → Prop
  | .appended stream command =>
      stream = controlStreamOf workerId agentType ∧ command.header.targetAgentType = agentType
  | .queued deliveryStream intent =>
      deliveryStream = .ctrlStream agentType ∧ intent.targetAgentType = agentType ∧
        intent.command.header.targetAgentType = agentType
  | .recorded record =>
      record.targetAgentType = agentType ∧ ∀ stream, record.streamName = some stream →
        stream = controlStreamOf workerId agentType ∨
          stream = .controlPlaneDeliveryPendingStream ∧
            ∃ intent, Place.queued (.ctrlStream agentType) intent ∈ places

def OneTarget (workerId : String) (reported : Except JsError (Option String))
    (trace : DispatchTrace) : Prop :=
  ∃ agentType, (∀ place ∈ trace.places, place.Names workerId agentType trace.places) ∧
    ∀ named, reported = .ok (some named) → named = agentType

/-- A resume is not sent to another agent type than the one it asks for. -/
def TargetedCall.Stays (call : TargetedCall) (trace : DispatchTrace) : Prop :=
  call.Resumes → trace.diversion = "" ∨ trace.diversion = call.target

section

variable {workerId agentType : String} {reported : Except JsError (Option String)}
  {before after : DispatchTrace} {streamName : Option Key} {added : List Place}

theorem Delivers.oneTarget (delivers : Delivers before streamName agentType after added)
    (earlier : ∀ place ∈ before.places, place.Names workerId agentType after.places)
    (stream : ∀ name, streamName = some name → name = controlStreamOf workerId agentType ∨
      name = .controlPlaneDeliveryPendingStream ∧
        (∃ intent, Place.queued (.ctrlStream agentType) intent ∈ before.places) ∧
          OnlyRecords added)
    (named : ∀ name, reported = .ok (some name) → name = agentType) :
    OneTarget workerId reported after := by
  refine ⟨agentType, fun place listed => ?_, named⟩
  have places := delivers.moved.places
  have inBoth := listed
  rw [places] at inBoth
  rcases List.mem_append.mp inBoth with old | new
  · exact earlier place old
  · have written := delivers.writes place new
    cases place with
    | appended name command =>
        obtain ⟨same, target⟩ := written
        rcases stream name same with control | ⟨_, _, only⟩
        · exact ⟨control, target⟩
        · obtain ⟨record, differs⟩ := only _ new
          cases differs
    | queued deliveryStream intent => exact written.elim
    | recorded record =>
        obtain ⟨target, same⟩ := written
        refine ⟨target, fun name shown => ?_⟩
        rcases stream name (same ▸ shown) with control | ⟨pending, ⟨intent, held⟩, _⟩
        · exact .inl control
        · exact .inr ⟨pending, intent, places ▸ List.mem_append_left _ held⟩

theorem oneTarget_of_no_places (unplaced : after.places = [])
    (unreported : ∀ name, reported ≠ .ok (some name)) : OneTarget workerId reported after := by
  refine ⟨"", fun place listed => ?_, fun name same => absurd same (unreported name)⟩
  rw [unplaced] at listed
  cases listed

theorem not_oneTarget (command : GatewayCommand)
    (appended : Place.appended (.ctrlStream agentType) command ∈ after.places)
    (differs : command.header.targetAgentType ≠ agentType) :
    ¬OneTarget "" reported after := by
  rintro ⟨named, names, _⟩
  obtain ⟨stream, target⟩ := names _ appended
  rw [controlStreamOf, if_pos rfl] at stream
  obtain rfl : agentType = named := by simpa using stream
  exact differs target

theorem verdict_of_settled (call : TargetedCall) (settled : after.settle = {})
    (unreported : ∀ name, reported ≠ .ok (some name)) :
    OneTarget call.worker reported after ↔ call.Stays after := by
  have stays : after.diversion = "" := congrArg DispatchTrace.diverted settled
  have unplaced : after.places = [] := congrArg DispatchTrace.places settled
  exact iff_of_true (oneTarget_of_no_places unplaced unreported) fun _ => .inl stays

end

section

variable {σ : Type} {memory : σ} {trace : DispatchTrace}

structure Dispatch.Serves (dispatch : Dispatch) (call : TargetedCall) : Prop where
  worker : call.worker = dispatch.params.targetWorkerId
  target : call.target = dispatch.request.targetAgentType
  aimed : dispatch.command.header.targetAgentType = dispatch.request.targetAgentType
  kind : (∃ ask, dispatch.command = .askAgent ask) ∧ ¬call.Resumes ∨
    (∃ reply, dispatch.command = .resume reply) ∧ call.Resumes

theorem Dispatch.Serves.aimed_retarget {dispatch : Dispatch} {call : TargetedCall}
    (serves : dispatch.Serves call) :
    (retarget dispatch.request.targetAgentType dispatch.command).header.targetAgentType =
      dispatch.request.targetAgentType := by
  rcases serves.kind with ⟨⟨ask, command⟩, _⟩ | ⟨⟨reply, command⟩, _⟩
  · rw [command]
    rfl
  · have aimed := serves.aimed
    rw [command] at aimed ⊢
    exact aimed

/-- A delivery that names `agentType` wherever it writes. -/
theorem publish_oneTarget (dispatch : Dispatch) (workerId : String) {agentType : String}
    {streamName : Key} (routeStatus : String) (queued : Bool)
    (aimed : (retarget agentType dispatch.command).header.targetAgentType = agentType)
    (earlier : ∀ place ∈ trace.places, ∀ places, place.Names workerId agentType places)
    (stream : if queued = true then streamName = .controlPlaneDeliveryPendingStream ∧
        ∃ intent, Place.queued (.ctrlStream agentType) intent ∈ trace.places
      else streamName = controlStreamOf workerId agentType) :
    (dispatch.publish streamName agentType routeStatus queued : Proc σ _).wp observing
      (fun outcome _ later =>
        OneTarget workerId (outcome.map SendMessageResponse.reported) later ∧
          later.diversion = trace.diversion) memory trace := by
  refine Task.wp_mono (publish_delivers dispatch streamName routeStatus queued aimed) ?_
  rintro outcome _ later - ⟨added, delivers, only, reports⟩
  refine ⟨delivers.oneTarget (fun place listed => earlier place listed _) ?_ ?_,
    delivers.moved.diversion⟩
  · rintro _ ⟨⟩
    cases queued with
    | false => exact .inl stream
    | true => exact .inr ⟨stream.1, stream.2, only⟩
  · intro name same
    cases outcome with
    | error error => cases same
    | ok response =>
        obtain ⟨success, target⟩ := reports response rfl
        simpa [Except.map, SendMessageResponse.reported, success, target, eq_comm] using same

theorem reject_oneTarget (dispatch : Dispatch) (workerId : String)
    (availability : AvailabilityResult) (settled : trace.settle = {}) :
    (dispatch.reject availability : Proc σ _).wp observing (fun outcome _ later =>
      OneTarget workerId (outcome.map SendMessageResponse.reported) later ∧
        later.diversion = "") memory trace := by
  have unplaced : trace.places = [] := congrArg DispatchTrace.places settled
  have stays : trace.diversion = "" := congrArg DispatchTrace.diverted settled
  have names {later : DispatchTrace} {added : List Place}
      (delivers : Delivers trace none dispatch.request.targetAgentType later added) :
      OneTarget workerId (.ok none) later ∧ later.diversion = "" := by
    refine ⟨delivers.oneTarget ?_ nofun nofun, delivers.moved.diversion.trans stays⟩
    rw [unplaced]
    exact fun _ listed => nomatch listed
  refine Task.wp_alone_bind (Task.wp_alone_tryCatch (Task.wp_mono (record_delivers _) ?_))
  rintro outcome _ later - ⟨added, delivers, _⟩
  cases outcome with
  | ok _ => exact Task.wp_alone_pure (names delivers)
  | error error => exact Task.wp_alone_pure (Task.wp_alone_pure (names delivers))

theorem selectedTarget_self (command : GatewayCommand) {availability : AvailabilityResult}
    (unselected : availability.selectedAgentType = "") (agentType : String) :
    selectedTarget command availability agentType = agentType := by
  unfold selectedTarget
  split
  · rw [unselected]
    rfl
  · rfl

theorem publish_diverted {dispatch : Dispatch} {call : TargetedCall} (serves : dispatch.Serves call)
    (direct : call.worker = "") {agentType : String} (named : agentType ≠ "") (routeStatus : String)
    (settled : trace.settle = { diverted := agentType }) :
    (dispatch.publish (.ctrlStream agentType) (selectedTarget dispatch.command
        { status := .fallbackToOtherAgentType, selectedAgentType := agentType }
        dispatch.request.targetAgentType) routeStatus false : Proc σ _).wp observing
      (fun outcome _ later =>
        OneTarget call.worker (outcome.map SendMessageResponse.reported) later ↔
          call.Stays later) memory trace := by
  have unplaced : trace.places = [] := congrArg DispatchTrace.places settled
  have diverted : trace.diversion = agentType := congrArg DispatchTrace.diverted settled
  have earlier : ∀ place ∈ trace.places, ∀ places, place.Names call.worker agentType places := by
    rw [unplaced]
    exact fun _ listed => nomatch listed
  have control : Key.ctrlStream agentType = controlStreamOf call.worker agentType := by
    rw [controlStreamOf, if_pos direct]
  rcases serves.kind with ⟨⟨ask, command⟩, asks⟩ | ⟨⟨reply, command⟩, resumes⟩
  · have selected : selectedTarget dispatch.command
        { status := .fallbackToOtherAgentType, selectedAgentType := agentType }
        dispatch.request.targetAgentType = agentType := by
      simp [command, selectedTarget, orElseText, named]
    rw [selected]
    refine Task.wp_mono (publish_oneTarget dispatch _ routeStatus false ?_ earlier
      control) ?_
    · rw [command]
      rfl
    · rintro _ _ later - ⟨one, _⟩
      exact iff_of_true one fun resumes => absurd resumes asks
  · have aimed := serves.aimed
    have kept : selectedTarget dispatch.command
        { status := .fallbackToOtherAgentType, selectedAgentType := agentType }
        dispatch.request.targetAgentType = dispatch.request.targetAgentType := by
      rw [command]
      rfl
    rw [kept]
    by_cases same : agentType = dispatch.request.targetAgentType
    · subst same
      refine Task.wp_mono (publish_oneTarget dispatch _ routeStatus false
        serves.aimed_retarget earlier control) ?_
      rintro _ _ later - ⟨one, diversion⟩
      refine iff_of_true one fun _ => .inr ?_
      rw [diversion, diverted, serves.target]
    · refine Task.wp_mono (publish_delivers dispatch _ routeStatus false
        serves.aimed_retarget) ?_
      rintro _ _ later - ⟨added, delivers, appended, _⟩
      have diversion := delivers.moved.diversion.trans diverted
      refine iff_of_false ?_ fun stays => ?_
      · rw [direct]
        have listed : Place.appended (.ctrlStream agentType)
            (retarget dispatch.request.targetAgentType dispatch.command) ∈ later.places := by
          rw [delivers.moved.places, unplaced]
          exact appended
        refine not_oneTarget _ listed ?_
        rw [serves.aimed_retarget]
        exact fun equal => same equal.symm
      · have kept := stays resumes
        rw [diversion, serves.target] at kept
        exact kept.elim named same

theorem names_of_none {later : DispatchTrace} (empty : later.places = [])
    (worker agentType : String) :
    ∀ place ∈ later.places, ∀ places, place.Names worker agentType places := by
  rw [empty]
  exact fun _ listed => nomatch listed

theorem names_of_held {later : DispatchTrace} {held : Place} {worker agentType : String}
    (listed : later.places = [held])
    (names : ∀ places, held.Names worker agentType places) :
    ∀ place ∈ later.places, ∀ places, place.Names worker agentType places := by
  rw [listed]
  rintro place inList
  obtain rfl := List.mem_singleton.mp inList
  exact names

theorem oneTarget_of_held {later : DispatchTrace} {held : Place} {worker agentType : String}
    {error : JsError} (listed : later.places = [held])
    (names : ∀ places, held.Names worker agentType places) :
    OneTarget worker (.error error) later :=
  ⟨agentType, fun place inList => names_of_held listed names place inList later.places, nofun⟩

theorem route_verdict {dispatch : Dispatch} {call : TargetedCall} (serves : dispatch.Serves call)
    (blank : trace.Blank) :
    (dispatch.route : Proc σ _).wp observing (fun outcome _ later =>
      OneTarget call.worker (outcome.map SendMessageResponse.reported) later ↔
        call.Stays later) memory trace := by
  have stays {later : DispatchTrace} (diversion : later.diversion = "") : call.Stays later :=
    fun _ => .inl diversion
  unfold Dispatch.route
  split
  · rename_i direct
    refine Task.wp_mono (publish_oneTarget dispatch call.worker _ false
      serves.aimed_retarget (names_of_none (congrArg DispatchTrace.places blank.settled) _ _) ?_) ?_
    · simp [serves.worker, controlStreamOf, direct]
    · rintro _ _ later - ⟨one, diversion⟩
      exact iff_of_true one
        (stays (diversion.trans (congrArg DispatchTrace.diverted blank.settled)))
  · rename_i routed
    have direct : call.worker = "" := serves.worker.trans (by simpa using routed)
    refine Task.wp_alone_bind (Task.wp_mono (prepareDelivery_routed blank) ?_)
    rintro _ after later - routed
    have heldNames (places : List Place) : dispatch.intent.held.Names call.worker
        dispatch.request.targetAgentType places :=
      ⟨rfl, rfl, serves.aimed⟩
    cases routed with
    | fails error settled =>
        rcases settled with settled | settled
        · exact verdict_of_settled call settled nofun
        · exact iff_of_true
            (oneTarget_of_held (congrArg DispatchTrace.places settled) heldNames)
            (stays (congrArg DispatchTrace.diverted settled))
    | @rejects availability _ status settled =>
        dsimp only
        rw [if_pos status]
        refine Task.wp_mono (reject_oneTarget dispatch call.worker availability settled) ?_
        rintro _ _ last - ⟨one, diversion⟩
        exact iff_of_true one (stays diversion)
    | @delivers availability _ status stream unselected settled =>
        have accepted : availability.status ≠ .reject := by
          rcases status with status | status <;> simp [status]
        have sent : (decide (availability.status = .queuePending)) = false := by
          rcases status with status | status <;> simp [status]
        dsimp only
        rw [if_neg accepted, stream, Option.getD_some, selectedTarget_self _ unselected, sent]
        refine Task.wp_mono (publish_oneTarget dispatch call.worker _ false
          serves.aimed_retarget (names_of_none (congrArg DispatchTrace.places settled) _ _) ?_) ?_
        · exact (if_pos direct).symm
        · rintro _ _ last - ⟨one, diversion⟩
          exact iff_of_true one
            (stays (diversion.trans (congrArg DispatchTrace.diverted settled)))
    | queues settled =>
        have listed : later.places = [dispatch.intent.held] :=
          congrArg DispatchTrace.places settled
        dsimp only
        rw [if_neg (by simp), selectedTarget_self _ rfl]
        refine Task.wp_mono (publish_oneTarget dispatch call.worker _ true
          serves.aimed_retarget (names_of_held listed heldNames) ?_) ?_
        · refine ⟨rfl, dispatch.intent, ?_⟩
          rw [listed]
          exact List.mem_singleton_self _
        · rintro _ _ last - ⟨one, diversion⟩
          exact iff_of_true one
            (stays (diversion.trans (congrArg DispatchTrace.diverted settled)))
    | diverts named settled => exact publish_diverted serves direct named _ settled

/-! ### The whole call -/

theorem wp_before_route {α : Type} (call : TargetedCall) {task : Proc σ α}
    {next : α → Proc σ SendMessageResponse} (uses : task.Uses ordinary) (blank : trace.Blank)
    (rest : ∀ value after later, later.Blank → (next value).wp observing (fun outcome _ last =>
      OneTarget call.worker (outcome.map SendMessageResponse.reported) last ↔ call.Stays last)
      after later) :
    (task >>= next).wp observing (fun outcome _ last =>
      OneTarget call.worker (outcome.map SendMessageResponse.reported) last ↔ call.Stays last)
      memory trace := by
  refine Task.wp_alone_bind (Task.wp_mono (wp_ordinary uses blank) ?_)
  intro outcome after later _ kept
  cases outcome with
  | error error => exact verdict_of_settled call kept.settled nofun
  | ok value => exact rest value after later kept

theorem uuidv4_ordinary : (uuidv4 : Proc σ String).Uses ordinary := Task.uses_await ⟨rfl, nofun⟩

theorem shortId_ordinary (label : String) : (shortId label : Proc σ String).Uses ordinary :=
  Task.uses_bind uuidv4_ordinary fun _ => Task.uses_pure _

theorem resumedBy_ordinary (request : RequestParams) (messageId : String) :
    (resumedBy request messageId : Proc σ _).Uses ordinary := by
  have getExecution (executionId sessionId : String) :
      (getExecution executionId sessionId : Proc σ _).Uses ordinary := by
    unfold ByFramework.getExecution
    split
    · exact Task.uses_pure _
    · refine uses_redis_bind ⟨rfl, nofun⟩ fun found _ => ?_
      split
      · exact Task.uses_pure _
      · exact Task.uses_pure _
      · exact Task.uses_pure _
      · exact Task.uses_throw _
  unfold resumedBy
  split
  · refine Task.uses_tryCatch ?_ fun _ => Task.uses_pure _
    unfold getExecutionByMessageId
    split
    · exact Task.uses_pure _
    · refine uses_redis_bind ⟨rfl, nofun⟩ fun mapped _ => ?_
      dsimp only
      split
      · exact Task.uses_pure _
      · exact getExecution _ _
  · exact Task.uses_pure _

theorem buildGatewayCommand_kind {actionType : String} {header : MessageHeader}
    {content : JsonValue} {extraPayload : JsonObject} {command : GatewayCommand}
    (built : buildGatewayCommand actionType header content extraPayload = .ok command) :
    command.header = header ∧ ((∃ ask, command = .askAgent ask) ∧ actionType ≠ actionResume ∨
      (∃ reply, command = .resume reply) ∧ actionType = actionResume) := by
  unfold buildGatewayCommand at built
  split at built
  · rename_i resumes
    generalize made : ResumeCommand.make _ _ _ _ _ = outcome at built
    cases outcome with
    | error error => cases built
    | ok reply =>
        cases built
        exact ⟨ResumeCommand.make_header made, .inr ⟨⟨reply, rfl⟩, resumes⟩⟩
  · rename_i asks
    generalize made : AskAgentCommand.make _ _ _ _ = outcome at built
    cases outcome with
    | error error => cases built
    | ok ask =>
        cases built
        exact ⟨AskAgentCommand.make_header made, .inl ⟨⟨ask, rfl⟩, asks⟩⟩

theorem directRouteError_refuses (params : SendMessageParams) (blank : trace.Blank) :
    (directRouteError params : Proc σ _).wp observing (fun outcome _ later => later.Blank ∧
      ∀ refusal, outcome = .ok (some refusal) → refusal.success = false) memory trace := by
  unfold directRouteError
  split
  · refine Task.wp_alone_pure ⟨blank, ?_⟩
    rintro refusal ⟨⟩
  · have look : (isWorkerOnline params.targetWorkerId : Proc σ Bool).Uses ordinary :=
      uses_redis_bind ⟨rfl, nofun⟩ fun _ _ => Task.uses_pure _
    refine Task.wp_alone_bind (Task.wp_mono (wp_ordinary (Task.uses_attempt look) blank) ?_)
    intro outcome after later _ kept
    cases outcome with
    | error error =>
        refine ⟨kept, ?_⟩
        rintro refusal ⟨⟩
    | ok found =>
        dsimp only
        split
        · refine Task.wp_alone_pure ⟨kept, ?_⟩
          rintro refusal ⟨⟩
        · refine Task.wp_alone_pure ⟨kept, ?_⟩
          rintro refusal ⟨⟩
          rfl
        · refine Task.wp_alone_pure ⟨kept, ?_⟩
          rintro refusal ⟨⟩
          rfl

theorem sendMessage_verdict (interceptors : List (RequestParams → RequestParams))
    (params : SendMessageParams) (blank : trace.Blank) :
    (sendMessage interceptors params : Proc σ _).wp observing (fun outcome _ later =>
      OneTarget params.targetWorkerId (outcome.map SendMessageResponse.reported) later ↔
        (TargetedCall.message interceptors params).Stays later) memory trace := by
  let call := TargetedCall.message interceptors params
  have identified (known : String) (fresh : Proc σ String) (uses : fresh.Uses ordinary) :
      (if known = "" then fresh else pure known).Uses ordinary := by
    split
    · exact uses
    · exact Task.uses_pure _
  have plain : (plainId : Proc σ String).Uses ordinary :=
    Task.uses_bind uuidv4_ordinary fun _ => Task.uses_pure _
  refine wp_before_route call (identified _ _ (shortId_ordinary _)) blank
    fun messageId after later kept => ?_
  refine wp_before_route call (identified _ _ plain) kept
    fun traceId after later kept => ?_
  refine Task.wp_alone_bind (Task.wp_mono (directRouteError_refuses params kept) ?_)
  rintro outcome after later - ⟨kept, refuses⟩
  cases outcome with
  | error error => exact verdict_of_settled call kept.settled nofun
  | ok refusal =>
      cases refusal with
      | some refusal =>
          refine Task.wp_alone_pure (verdict_of_settled call kept.settled ?_)
          intro name same
          simp [Except.map, SendMessageResponse.reported, refuses refusal rfl] at same
      | none =>
          dsimp only
          generalize built : buildGatewayCommand _ _ _ _ = command
          cases command with
          | error error =>
              refine Task.wp_alone_bind (Task.wp_alone_throw ?_)
              exact verdict_of_settled call kept.settled nofun
          | ok command =>
              obtain ⟨header, kind⟩ := buildGatewayCommand_kind built
              refine Task.wp_alone_bind (Task.wp_alone_pure ?_)
              refine wp_before_route call (resumedBy_ordinary _ _) kept
                fun resumed after later kept => ?_
              have named : (dispatchExecutionId resumed : Proc σ String).Uses ordinary :=
                identified _ _ (shortId_ordinary _)
              refine wp_before_route call named kept
                fun executionId after later kept => ?_
              have aimed : command.header.targetAgentType =
                  (params.request interceptors).targetAgentType := by
                rw [header]
                rfl
              exact route_verdict (show Dispatch.Serves _ call from ⟨rfl, rfl, aimed, kind⟩) kept

theorem refuseCall_names (input : CallAgentPublishInput) (record : ExecutionRecord)
    (availability : AvailabilityResult) (target : record.targetAgentType = input.targetAgentType)
    (stream : record.streamName = some (.ctrlStream input.targetAgentType))
    (settled : trace.settle = {}) :
    (refuseCall input record availability : Proc σ _).wp observing (fun outcome _ later =>
      OneTarget "" (outcome.map fun result => some result.targetAgentType) later) memory
      trace := by
  have unplaced : trace.places = [] := congrArg DispatchTrace.places settled
  have names {later : DispatchTrace} {added : List Place}
      {reported : Except JsError (Option String)}
      (delivers : Delivers trace record.streamName record.targetAgentType later added)
      (reports : ∀ name, reported = .ok (some name) → name = input.targetAgentType) :
      OneTarget "" reported later := by
    refine delivers.oneTarget ?_ ?_ fun name same => (reports name same).trans target.symm
    · rw [unplaced]
      exact fun _ listed => nomatch listed
    · intro name same
      rw [stream] at same
      obtain rfl := Option.some.inj same
      refine .inl ?_
      rw [controlStreamOf, if_pos rfl, target]
  refine Task.wp_alone_bind (Task.wp_mono (record_delivers _) ?_)
  rintro outcome _ later - ⟨added, delivers, _⟩
  cases outcome with
  | error error =>
      refine names delivers ?_
      rintro name ⟨⟩
  | ok _ =>
      refine Task.wp_alone_pure (names delivers ?_)
      rintro name ⟨⟩
      rfl

theorem deliverCall_oneTarget (input : CallAgentPublishInput) (command : AskAgentCommand)
    (record : ExecutionRecord) {availability : AvailabilityResult} (agentType : String)
    {streamName : Key}
    (selected : orElseText availability.selectedAgentType input.targetAgentType = agentType)
    (streamed : availability.streamName = some streamName)
    (earlier : ∀ place ∈ trace.places, ∀ places, place.Names "" agentType places)
    (stream : if availability.status = .queuePending then
        streamName = .controlPlaneDeliveryPendingStream ∧
          ∃ intent, Place.queued (.ctrlStream agentType) intent ∈ trace.places
      else streamName = .ctrlStream agentType) :
    (deliverCall input command record availability : Proc σ _).wp observing
      (fun outcome _ later =>
        OneTarget "" (outcome.map fun result => some result.targetAgentType) later) memory
      trace := by
  have delivered := @deliverCall_delivers σ memory trace input command record availability
  rw [selected, streamed, Option.getD_some] at delivered
  refine Task.wp_mono delivered ?_
  rintro outcome _ later - ⟨added, delivers, only, reports⟩
  refine delivers.oneTarget (fun place listed => earlier place listed _) ?_ ?_
  · rintro _ ⟨⟩
    split at stream
    · rename_i queued
      exact .inr ⟨stream.1, stream.2, only queued⟩
    · refine .inl ?_
      rw [controlStreamOf, if_pos rfl]
      exact stream
  · intro name same
    cases outcome with
    | error error => cases same
    | ok result =>
        cases same
        exact reports result rfl

theorem publishCall_oneTarget (input : CallAgentPublishInput) (messageId : String)
    (blank : trace.Blank) :
    (publishCall input messageId : Proc σ _).wp observing (fun outcome _ later =>
      OneTarget "" (outcome.map fun result => some result.targetAgentType) later) memory
      trace := by
  have nothing {later : DispatchTrace} (error : JsError) (settled : later.settle = {}) :
      OneTarget "" (.error error) later :=
    oneTarget_of_no_places (congrArg DispatchTrace.places settled) nofun
  unfold publishCall
  dsimp only
  generalize headed : askAgentHeader input messageId
    (orElseText input.parentMessageId input.defaultParentMessageId) = header
  have target : header.targetAgentType = input.targetAgentType := by
    rw [← headed]
    rfl
  generalize made : AskAgentCommand.make header input.content input.waitForReply
    (dropWaitForReply input.extraPayload) = command
  cases command with
  | error error => exact Task.wp_alone_bind (Task.wp_alone_throw (nothing error blank.settled))
  | ok command =>
      have sameHeader := AskAgentCommand.make_header made
      refine Task.wp_alone_bind (Task.wp_alone_pure ?_)
      refine Task.wp_alone_bind (Task.wp_mono (wp_ordinary (shortId_ordinary _) blank) ?_)
      intro outcome after later _ kept
      cases outcome with
      | error error => exact nothing error kept.settled
      | ok executionId =>
          refine Task.wp_alone_bind (Task.wp_mono (prepareDelivery_routed kept) ?_)
          rintro _ after later - routed
          have heldNames (places : List Place) :
              (callIntent input command executionId).held.Names "" input.targetAgentType places :=
            ⟨rfl, rfl, (congrArg MessageHeader.targetAgentType sameHeader).trans target⟩
          cases routed with
          | fails error settled =>
              rcases settled with settled | settled
              · exact nothing error settled
              · exact oneTarget_of_held (congrArg DispatchTrace.places settled) heldNames
          | @rejects availability _ status settled =>
              dsimp only
              rw [if_pos status]
              exact refuseCall_names input _ availability target rfl settled
          | @delivers availability _ status stream unselected settled =>
              have accepted : availability.status ≠ .reject := by
                rcases status with status | status <;> simp [status]
              have sent : availability.status ≠ .queuePending := by
                rcases status with status | status <;> simp [status]
              dsimp only
              rw [if_neg accepted]
              refine deliverCall_oneTarget input _ _ input.targetAgentType ?_ stream
                (names_of_none (congrArg DispatchTrace.places settled) _ _) ?_
              · rw [unselected]
                rfl
              · rw [if_neg sent]
                rfl
          | queues settled =>
              have listed : later.places = [(callIntent input command executionId).held] :=
                congrArg DispatchTrace.places settled
              dsimp only
              rw [if_neg (by simp)]
              refine deliverCall_oneTarget input _ _ input.targetAgentType rfl rfl
                (names_of_held listed heldNames) ?_
              · refine ⟨rfl, callIntent input command executionId, ?_⟩
                rw [listed]
                exact List.mem_singleton_self _
          | diverts named settled =>
              dsimp only
              rw [if_neg (by simp)]
              refine deliverCall_oneTarget input _ _ _ ?_ rfl
                (names_of_none (congrArg DispatchTrace.places settled) _ _) rfl
              simp [orElseText, named]

/-- A dispatch names one agent type throughout exactly when it is no resume that goes to the
fallback of its target. -/
theorem one_target_iff (call : TargetedCall) :
    call.program.wp observing (fun outcome _ trace =>
      OneTarget call.worker outcome trace ↔ call.Stays trace) () {} := by
  have blank : DispatchTrace.Blank {} := ⟨rfl, rfl⟩
  cases call with
  | message interceptors params =>
      refine Task.wp_alone_bind (Task.wp_mono (sendMessage_verdict interceptors params blank) ?_)
      intro outcome after later _ verdict
      cases outcome with
      | error error => exact verdict
      | ok response => exact Task.wp_alone_pure verdict
  | call input =>
      have published : (publishCallAgent input : Proc Unit _).wp observing (fun outcome _ later =>
          OneTarget "" (outcome.map fun result => some result.targetAgentType) later) () {} := by
        have identified : (if input.messageId = "" then generateMessageId
            else pure input.messageId : Proc Unit String).Uses ordinary := by
          split
          · exact shortId_ordinary _
          · exact Task.uses_pure _
        refine Task.wp_alone_bind (Task.wp_mono (wp_ordinary identified blank) ?_)
        intro outcome after later _ kept
        cases outcome with
        | error error =>
            exact oneTarget_of_no_places (congrArg DispatchTrace.places kept.settled) nofun
        | ok messageId => exact publishCall_oneTarget input messageId kept
      refine Task.wp_alone_bind (Task.wp_mono published ?_)
      intro outcome after later _ one
      cases outcome with
      | error error => exact iff_of_true one nofun
      | ok result => exact Task.wp_alone_pure (iff_of_true one nofun)

end

/-! ### A resume whose agent type is away -/

def answerCold : TargetedCall :=
  .message []
    { targetAgentType := "cold"
      sessionId := "session"
      messageId := "msg-1"
      traceId := "trace"
      content := .string "yes"
      actionType := actionResume }

def warmFallback (trace : DispatchTrace) (op : Op) : op.Reply × DispatchTrace :=
  let reply : op.Reply := match op with
    | .redis (.get (.controlPlaneAgentFallback _)) =>
        .ok (some (.json (.object [("selected_agent_type", .string "warm")])))
    | .redis (.get (.workerOnlineLease _)) => .ok (some (.presence ⟨some "token", 1, ""⟩))
    | .redis (.smembers (.agentTypeMembers "warm")) => .ok ["worker"]
    | other => (redisAnswer Redis.Store.empty other).1
  (reply, trace.observe op reply)

def Place.sent : Place → Option (Key × String)
  | .appended stream command => some (stream, command.header.targetAgentType)
  | _ => none

/-- The command for "cold" stands in the stream of "warm". -/
theorem resume_two_targets :
    ¬∀ call : TargetedCall, call.program.wp observing (fun outcome _ trace =>
      OneTarget call.worker outcome trace) () {} := by
  intro always
  have served : ∀ (trace : DispatchTrace) (op : Op), (warmFallback trace op).2 =
      trace.observe op (warmFallback trace op).1 := fun _ _ => rfl
  have one := Prog.wp_run (always answerCold) served
  have ran : ((Task.start answerCold.program ()).run warmFallback
      ({} : DispatchTrace)).2.places.filterMap Place.sent = [(.ctrlStream "warm", "cold")] := by
    decide +kernel
  have listed : (Key.ctrlStream "warm", "cold") ∈
      ((Task.start answerCold.program ()).run warmFallback
        ({} : DispatchTrace)).2.places.filterMap Place.sent := by
    rw [ran]
    exact List.mem_singleton_self _
  obtain ⟨place, inPlaces, sent⟩ := List.mem_filterMap.mp listed
  cases place with
  | appended stream command =>
      simp only [Place.sent, Option.some.injEq, Prod.mk.injEq] at sent
      obtain ⟨rfl, target⟩ := sent
      exact not_oneTarget command inPlaces (by simp [target]) one
  | queued deliveryStream intent => cases sent
  | recorded record => cases sent

end ByFramework
