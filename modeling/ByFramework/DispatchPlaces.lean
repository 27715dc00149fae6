import ByFramework.ClientCore
import ByFramework.RegisteredFirst

/-!
What one dispatch writes, whatever Redis, the clock and fresh ids answer: the places where it
names an agent type, and the fallback it was sent to.
-/

namespace ByFramework

open Async

/-- Where a dispatch names an agent type, and how. -/
inductive Place where
  | appended (stream : Key) (command : GatewayCommand)
  | queued (deliveryStream : Key) (intent : DeliveryIntent)
  | recorded (record : ExecutionRecord)

def placesOf : Op → List Place
  | .redis (.xadd _ (.pendingDelivery deliveryStream intent)) => [.queued deliveryStream intent]
  | .redis (.xadd stream (.command command)) => [.appended stream command]
  | .redis (.hset _ [(_, .execution record)]) => [.recorded record]
  | _ => []

/-- What a call has written so far, and the fallback whose workers it looks up. -/
structure DispatchTrace where
  places : List Place := []
  fallback : String := ""
  reachable : Bool := false
  diverted : String := ""

namespace DispatchTrace

def diversion (trace : DispatchTrace) : String :=
  if trace.reachable = true ∧ trace.fallback ≠ "" then trace.fallback else trace.diverted

def settle (trace : DispatchTrace) : DispatchTrace :=
  { places := trace.places, diverted := trace.diversion }

def look (trace : DispatchTrace) : (op : Op) → op.Reply → DispatchTrace
  | .redis (.get (.controlPlaneAgentFallback _)), .ok found =>
      { trace with fallback := fallbackType (foundFields found), reachable := false }
  | .redis (.get (.workerOnlineLease _)), .ok lease =>
      { trace with reachable := trace.reachable || showsOnline lease }
  | .redis (.get _), .ok _ => trace
  | .redis (.smembers _), .ok _ => trace
  | .redis (.get _), .error _ => { trace with fallback := "", reachable := false }
  | .redis (.smembers _), .error _ => { trace with fallback := "", reachable := false }
  | _, _ => trace.settle

def observe (trace : DispatchTrace) (op : Op) (reply : op.Reply) : DispatchTrace :=
  { trace.look op reply with places := trace.places ++ placesOf op }

end DispatchTrace

/-- Any answer at all, noted in the trace. -/
abbrev observing : Setting effects DispatchTrace :=
  .alone fun before op reply after => after = before.observe op reply

/-- Nothing is written yet, and no fallback is looked up. -/
structure DispatchTrace.Blank (trace : DispatchTrace) : Prop where
  settled : trace.settle = {}
  unasked : trace.fallback = ""

/-- From one trace to a later one with `added` more places, which goes on to the same stream. -/
def DispatchTrace.Moved (before : DispatchTrace) (added : List Place) (after : DispatchTrace) :
    Prop :=
  after.settle = { before.settle with places := before.places ++ added }

namespace DispatchTrace

variable {trace before after last : DispatchTrace} {added more : List Place}

theorem diversion_settle (trace : DispatchTrace) : trace.settle.diverted = trace.diversion := rfl

theorem Moved.refl (trace : DispatchTrace) : trace.Moved [] trace := by
  simp [Moved, settle]

theorem Moved.trans (first : before.Moved added after) (second : after.Moved more last) :
    before.Moved (added ++ more) last := by
  have places : after.places = before.places ++ added := by
    have same := congrArg DispatchTrace.places first
    exact same
  unfold Moved at second ⊢
  rw [second, places, List.append_assoc]
  have same := congrArg DispatchTrace.diverted first
  rw [diversion_settle] at same
  simp only [settle, same]

theorem Moved.places (moved : before.Moved added after) :
    after.places = before.places ++ added :=
  congrArg DispatchTrace.places moved

theorem Moved.diversion (moved : before.Moved added after) : after.diversion = before.diversion :=
  congrArg DispatchTrace.diverted moved

theorem moved_observe (trace : DispatchTrace) {op : Op}
    (writes : ∀ reply, trace.look op reply = trace.settle)
    (reply : op.Reply) : trace.Moved (placesOf op) (trace.observe op reply) := by
  unfold observe
  rw [writes]
  rfl

end DispatchTrace

def ordinary : Contract effects :=
  .only fun op => placesOf op = [] ∧
    ∀ agentType, op ≠ .redis (.get (.controlPlaneAgentFallback agentType))

theorem DispatchTrace.Blank.observe {trace : DispatchTrace} (blank : trace.Blank) {op : Op}
    (permitted : ordinary.allowed op) (reply : op.Reply) : (trace.observe op reply).Blank := by
  obtain ⟨unplaced, unread⟩ := permitted
  obtain ⟨places, fallback, reachable, diverted⟩ := trace
  obtain ⟨settled, rfl⟩ := blank
  have empty : places = [] := congrArg DispatchTrace.places settled
  have stays : diverted = "" := by
    have same := congrArg DispatchTrace.diverted settled
    simpa [DispatchTrace.settle, DispatchTrace.diversion] using same
  subst empty stays
  unfold DispatchTrace.observe
  rw [unplaced]
  unfold DispatchTrace.look
  split
  · rename_i agentType found
    exact absurd rfl (unread agentType)
  all_goals exact ⟨by simp [DispatchTrace.settle, DispatchTrace.diversion], rfl⟩

section

variable {σ α : Type} {memory : σ} {trace : DispatchTrace}

theorem wp_ordinary {task : Proc σ α} (uses : task.Uses ordinary) (blank : trace.Blank) :
    task.wp observing (fun _ _ later => later.Blank) memory trace := by
  refine Task.wp_mono (Task.wp_of_uses ?_ ?_ uses trivial blank) fun _ _ _ _ kept => kept.2
  · rintro before later same rfl -
    exact same
  · rintro before op same - permitted
    refine ⟨trivial, ?_⟩
    rintro reply after rfl -
    exact ⟨trivial, same.observe permitted reply⟩

def looking (agentType : String) (reachable : Bool) : DispatchTrace :=
  { fallback := agentType, reachable := reachable }

theorem settle_looking_none (agentType : String) : (looking agentType false).settle = {} := by
  simp [looking, DispatchTrace.settle, DispatchTrace.diversion]

theorem settle_looking_some {agentType : String} (named : agentType ≠ "") :
    (looking agentType true).settle = { diverted := agentType } := by
  simp [looking, DispatchTrace.settle, DispatchTrace.diversion, named]

theorem wp_redis_observing {command : RedisCommand}
    {post : Except JsError command.Reply → σ → DispatchTrace → Prop}
    (holds : ∀ reply : Except String command.Reply,
      post (reply.mapError redisError) memory (trace.observe (.redis command) reply)) :
    (redis command : Proc σ _).wp observing post memory trace := by
  refine wp_redis ?_
  rintro later rfl -
  refine ⟨trivial, ?_⟩
  rintro reply after rfl - last rfl -
  exact holds reply

theorem isWorkerOnline_looking (agentType workerId : String) (reachable : Bool) :
    (isWorkerOnline workerId : Proc σ Bool).wp observing (fun outcome _ later =>
      match outcome with
      | .ok online => later = looking agentType (reachable || online)
      | .error _ => later = {}) memory (looking agentType reachable) := by
  refine Task.wp_alone_bind (wp_redis_observing fun reply => ?_)
  cases reply with
  | error message => rfl
  | ok lease => exact Task.wp_alone_pure rfl

theorem onlineOf_looking (agentType : String) (workers : List String) (reachable : Bool) :
    (onlineOf workers : Proc σ _).wp observing (fun outcome _ later =>
      match outcome with
      | .ok online => later = looking agentType (reachable || !online.isEmpty)
      | .error _ => later = {}) memory (looking agentType reachable) := by
  induction workers generalizing reachable memory with
  | nil =>
      refine Task.wp_alone_pure ?_
      simp
  | cons workerId rest ih =>
      refine Task.wp_alone_bind (Task.wp_mono (isWorkerOnline_looking _ _ _) ?_)
      intro outcome after later _ seen
      cases outcome with
      | error error => exact seen
      | ok online =>
          subst seen
          refine Task.wp_alone_bind (Task.wp_mono (ih _) ?_)
          intro outcome after later _ seen
          cases outcome with
          | error error => exact seen
          | ok others =>
              subst seen
              refine Task.wp_alone_pure ?_
              cases online <;> simp

theorem hasOnlineAgentType_looking (agentType : String) :
    (hasOnlineAgentType agentType : Proc σ _).wp observing (fun outcome _ later =>
      match outcome with
      | .ok online => later = looking agentType (!online.isEmpty)
      | .error _ => later = {}) memory (looking agentType false) := by
  refine Task.wp_alone_bind (wp_redis_observing fun reply => ?_)
  cases reply with
  | error message => rfl
  | ok workers => exact onlineOf_looking agentType workers false

/-! ### Routing -/

theorem readJson_ordinary {key : Key}
    (other : ∀ agentType, key ≠ .controlPlaneAgentFallback agentType) :
    (readJson key : Proc σ _).Uses ordinary := by
  refine uses_redis_bind ⟨rfl, fun agentType same => ?_⟩ fun found _ => ?_
  · injection same with same
    injection same with same
    exact other agentType same
  · split <;> exact Task.uses_pure _

theorem onlineOf_ordinary (workers : List String) :
    (onlineOf workers : Proc σ _).Uses ordinary := by
  induction workers with
  | nil => exact Task.uses_pure _
  | cons workerId rest ih =>
      refine Task.uses_bind (uses_redis_bind ⟨rfl, nofun⟩ fun _ _ => Task.uses_pure _) fun _ => ?_
      exact Task.uses_bind ih fun _ => Task.uses_pure _

theorem hasOnlineAgentType_ordinary (agentType : String) :
    (hasOnlineAgentType agentType : Proc σ _).Uses ordinary :=
  uses_redis_bind ⟨rfl, nofun⟩ fun workers _ => onlineOf_ordinary workers

theorem dateNow_ordinary : (dateNow : Proc σ Int).Uses ordinary := Task.uses_await ⟨rfl, nofun⟩

end

/-- The held delivery that the router writes for an intent. -/
def DeliveryIntent.held (intent : DeliveryIntent) : Place :=
  .queued (.ctrlStream intent.targetAgentType) intent

/-- What the router comes to, with the trace it leaves. -/
inductive Routed (intent : DeliveryIntent) :
    Except JsError AvailabilityResult → DispatchTrace → Prop where
  | fails (error : JsError) {trace : DispatchTrace}
      (settled : trace.settle = {} ∨ trace.settle = { places := [intent.held] }) :
      Routed intent (.error error) trace
  | rejects {result : AvailabilityResult} {trace : DispatchTrace} (status : result.status = .reject)
      (settled : trace.settle = {}) : Routed intent (.ok result) trace
  | delivers {result : AvailabilityResult} {trace : DispatchTrace}
      (status : result.status = .deliverNow ∨ result.status = .waitAndDeliver)
      (stream : result.streamName = some (.ctrlStream intent.targetAgentType))
      (unselected : result.selectedAgentType = "") (settled : trace.settle = {}) :
      Routed intent (.ok result) trace
  | queues {trace : DispatchTrace} (settled : trace.settle = { places := [intent.held] }) :
      Routed intent (.ok
        { status := .queuePending, streamName := some .controlPlaneDeliveryPendingStream }) trace
  | diverts {agentType : String} {trace : DispatchTrace} (named : agentType ≠ "")
      (settled : trace.settle = { diverted := agentType }) :
      Routed intent (.ok
        { status := .fallbackToOtherAgentType
          streamName := some (.ctrlStream agentType)
          selectedAgentType := agentType }) trace

section

variable {σ : Type} {memory : σ} {trace : DispatchTrace} {intent : DeliveryIntent}

theorem settle_of_written {op : Op} (writes : ∀ reply, trace.look op reply = trace.settle)
    (settled : trace.settle = {}) (reply : op.Reply) :
    trace.observe op reply = { places := placesOf op } := by
  have places : trace.places = [] := congrArg DispatchTrace.places settled
  unfold DispatchTrace.observe
  rw [writes, settled, places]
  rfl

theorem queuePending_routed (settled : trace.settle = {}) :
    (queuePending intent : Proc σ _).wp observing (fun outcome _ later =>
      Routed intent outcome later) memory trace := by
  refine Task.wp_alone_bind (wp_redis_observing fun reply => ?_)
  rw [settle_of_written (fun _ => rfl) settled]
  cases reply with
  | error message => exact .fails _ (.inr rfl)
  | ok entryId => exact Task.wp_alone_pure (.queues rfl)

theorem publishWakeup_settles (settled : trace.settle = {}) :
    (publishWakeup intent : Proc σ PUnit).wp observing (fun _ _ later => later = {}) memory
      trace := by
  refine Task.wp_alone_bind (wp_redis_observing fun reply => ?_)
  rw [settle_of_written (fun _ => rfl) settled]
  cases reply with
  | error message => rfl
  | ok entryId => exact Task.wp_alone_pure rfl

theorem wp_ordinary_bind {α : Type} {task : Proc σ α} {next : α → Proc σ AvailabilityResult}
    (uses : task.Uses ordinary) (blank : trace.Blank)
    (rest : ∀ value after later, later.Blank → (next value).wp observing
      (fun outcome _ last => Routed intent outcome last) after later) :
    (task >>= next).wp observing (fun outcome _ last => Routed intent outcome last) memory
      trace := by
  refine Task.wp_alone_bind (Task.wp_mono (wp_ordinary uses blank) ?_)
  intro outcome after later _ kept
  cases outcome with
  | error error => exact .fails error (.inl kept.settled)
  | ok value => exact rest value after later kept

theorem awaitWakeup_routed (deadline : Int) (polls : Nat) (blank : trace.Blank) :
    (awaitWakeup intent deadline polls : Proc σ _).wp observing (fun outcome _ later =>
      Routed intent outcome later) memory trace := by
  induction polls generalizing memory trace with
  | zero => exact Task.wp_alone_pure (.rejects rfl blank.settled)
  | succ polls ih =>
      refine wp_ordinary_bind dateNow_ordinary blank fun now after later kept => ?_
      split
      · refine wp_ordinary_bind (hasOnlineAgentType_ordinary _) kept
          fun online after later kept => ?_
        split
        · exact Task.wp_alone_pure (.delivers (.inr rfl) rfl rfl kept.settled)
        · exact wp_ordinary_bind dateNow_ordinary kept fun _ _ _ last => ih last
      · exact Task.wp_alone_pure (.rejects rfl kept.settled)

theorem wakeAndWait_routed (settled : trace.settle = {}) :
    (wakeAndWait intent : Proc σ _).wp observing (fun outcome _ later =>
      Routed intent outcome later) memory trace := by
  refine Task.wp_alone_bind (Task.wp_mono (publishWakeup_settles settled) ?_)
  rintro outcome after _ - rfl
  cases outcome with
  | error error => exact .fails error (.inl rfl)
  | ok sent =>
      dsimp only
      split
      · exact Task.wp_alone_pure (.rejects rfl rfl)
      · refine wp_ordinary_bind dateNow_ordinary ⟨rfl, rfl⟩ fun now after later kept => ?_
        exact awaitWakeup_routed _ _ kept

theorem routeOffline_routed (settled : trace.settle = {}) :
    (routeOffline intent : Proc σ _).wp observing (fun outcome _ later =>
      Routed intent outcome later) memory trace := by
  unfold routeOffline
  split
  · exact Task.wp_alone_pure (.rejects rfl settled)
  · exact queuePending_routed settled
  · refine Task.wp_alone_bind (Task.wp_mono (publishWakeup_settles settled) ?_)
    rintro outcome after _ - rfl
    cases outcome with
    | error error => exact .fails error (.inl rfl)
    | ok sent => exact queuePending_routed rfl
  · exact wakeAndWait_routed settled
  · exact Task.wp_alone_pure (.rejects rfl settled)

theorem readFallback_looking (blank : trace.Blank) (agentType : String) :
    (readJson (.controlPlaneAgentFallback agentType) : Proc σ _).wp observing
      (fun outcome _ later => match outcome with
        | .ok fields => later = looking (fallbackType fields) false
        | .error _ => later.settle = {}) memory trace := by
  have empty : trace.places = [] := congrArg DispatchTrace.places blank.settled
  have stays : trace.diverted = "" := by
    have same := congrArg DispatchTrace.diverted blank.settled
    simpa [DispatchTrace.settle, DispatchTrace.diversion, blank.unasked] using same
  refine Task.wp_alone_bind (wp_redis_observing fun reply => ?_)
  cases reply with
  | error message =>
      change DispatchTrace.settle { trace with
        fallback := "", reachable := false, places := trace.places ++ [] } = {}
      simp [DispatchTrace.settle, DispatchTrace.diversion, empty, stays]
  | ok found =>
      have started : trace.observe (.redis (.get (.controlPlaneAgentFallback agentType)))
          (.ok found) = looking (fallbackType (foundFields found)) false := by
        change ({ trace with
          fallback := fallbackType (foundFields found)
          reachable := false
          places := trace.places ++ [] } : DispatchTrace) = _
        simp [looking, empty, stays]
      rw [started]
      dsimp only [Except.mapError]
      split
      · exact Task.wp_alone_pure rfl
      · rename_i other
        have none : foundFields found = [] := by
          unfold foundFields
          split
          · rename_i fields
            exact absurd rfl (other fields)
          · rfl
        rw [none]
        exact Task.wp_alone_pure rfl

theorem routeOnline_routed (blank : trace.Blank) :
    (routeOnline intent : Proc σ _).wp observing (fun outcome _ later =>
      Routed intent outcome later) memory trace := by
  refine wp_ordinary_bind (hasOnlineAgentType_ordinary _) blank fun online after later kept => ?_
  dsimp only
  split
  · exact Task.wp_alone_pure (.delivers (.inl rfl) rfl rfl kept.settled)
  refine Task.wp_alone_bind (Task.wp_mono (readFallback_looking kept _) ?_)
  intro outcome after later _ started
  cases outcome with
  | error error => exact .fails error (.inl started)
  | ok fields =>
      subst started
      have chosen (reachable : List String) (named : reachable ≠ [] → fallbackType fields ≠ "")
          (left : σ) :
          (if !reachable.isEmpty then
            pure
              { status := .fallbackToOtherAgentType
                streamName := some (.ctrlStream (fallbackType fields))
                selectedAgentType := fallbackType fields }
          else routeOffline intent : Proc σ _).wp observing (fun outcome _ last =>
            Routed intent outcome last) left
            (looking (fallbackType fields) !reachable.isEmpty) := by
        cases reachable with
        | nil => exact routeOffline_routed (settle_looking_none _)
        | cons first rest =>
            have named := named (List.cons_ne_nil _ _)
            exact Task.wp_alone_pure (.diverts named (settle_looking_some named))
      refine Task.wp_alone_bind ?_
      dsimp only
      split
      · exact Task.wp_alone_pure (chosen [] (absurd rfl) after)
      · rename_i named
        refine Task.wp_mono (hasOnlineAgentType_looking _) ?_
        intro outcome last later _ seen
        cases outcome with
        | error error =>
            subst seen
            exact .fails error (.inl rfl)
        | ok reachable =>
            subst seen
            exact chosen reachable (fun _ => named) last

theorem prepareDelivery_routed (blank : trace.Blank) :
    (prepareDelivery intent : Proc σ _).wp observing (fun outcome _ later =>
      Routed intent outcome later) memory trace := by
  unfold prepareDelivery
  split
  · exact Task.wp_alone_pure (.rejects rfl blank.settled)
  refine wp_ordinary_bind (readJson_ordinary fun agentType same => by cases same) blank
    fun circuit after later kept => ?_
  split
  · exact Task.wp_alone_pure (.rejects rfl kept.settled)
  have quota : (quotaRejection intent.userCode : Proc σ _).wp observing (fun outcome _ last =>
      last.Blank ∧ ∀ rejection, outcome = .ok (some rejection) → rejection.status = .reject)
      after later := by
    unfold quotaRejection
    split
    · exact Task.wp_alone_pure ⟨kept, fun rejection none => by cases none⟩
    · refine Task.wp_alone_bind (Task.wp_mono (wp_ordinary (readJson_ordinary
        fun agentType same => by cases same) kept) ?_)
      intro outcome left last _ still
      cases outcome with
      | error error => exact ⟨still, fun rejection none => by cases none⟩
      | ok fields =>
          dsimp only
          split
          · exact Task.wp_alone_pure ⟨still, fun rejection same => by cases same; rfl⟩
          · exact Task.wp_alone_pure ⟨still, fun rejection none => by cases none⟩
  refine Task.wp_alone_bind (Task.wp_mono quota ?_)
  rintro outcome left last - ⟨still, rejects⟩
  cases outcome with
  | error error => exact .fails error (.inl still.settled)
  | ok rejection =>
      cases rejection with
      | some rejection => exact Task.wp_alone_pure (.rejects (rejects _ rfl) still.settled)
      | none =>
          dsimp only
          split
          · exact Task.wp_alone_pure (.delivers (.inl rfl) rfl rfl still.settled)
          · exact routeOnline_routed still

def settling : Contract effects :=
  .only fun op => placesOf op = [] ∧
    ∀ (trace : DispatchTrace) (reply : op.Reply), trace.look op reply = trace.settle

theorem wp_settling {α : Type} {task : Proc σ α} (uses : task.Uses settling) :
    task.wp observing (fun _ _ later => trace.Moved [] later) memory trace := by
  refine Task.wp_mono (Task.wp_of_uses ?_ ?_ uses trivial (DispatchTrace.Moved.refl trace))
    fun _ _ _ _ kept => kept.2
  · rintro before later same rfl -
    exact same
  · rintro before op same - ⟨unplaced, settles⟩
    refine ⟨trivial, ?_⟩
    rintro reply after rfl -
    have step := before.moved_observe (settles before) reply
    rw [unplaced] at step
    exact ⟨trivial, same.trans step⟩

theorem commands_move {commands : List RedisCommand}
    (writes : ∀ command ∈ commands, ∀ (trace : DispatchTrace) reply,
      trace.look (.redis command) reply = trace.settle) :
    (Task.forEach commands (fun command => do
      let _ ← await (.redis command)) : Proc σ PUnit).wp observing (fun outcome _ later =>
        outcome = .ok ⟨⟩ ∧ trace.Moved (commands.flatMap fun command => placesOf (.redis command))
          later) memory trace := by
  induction commands generalizing memory trace with
  | nil => exact Task.wp_alone_pure ⟨rfl, .refl trace⟩
  | cons command rest ih =>
      refine Task.wp_alone_bind (Task.wp_alone_bind (Task.wp_alone_await ?_))
      rintro reply _ rfl
      refine Task.wp_alone_pure ?_
      have step := trace.moved_observe (writes command List.mem_cons_self trace) reply
      refine Task.wp_mono (ih fun other listed => writes other (List.mem_cons_of_mem _ listed)) ?_
      rintro outcome _ later - ⟨returned, moved⟩
      exact ⟨returned, step.trans moved⟩

theorem pipeline_moves {commands : List RedisCommand}
    (writes : ∀ command ∈ commands, ∀ (trace : DispatchTrace) reply,
      trace.look (.redis command) reply = trace.settle) :
    (pipeline commands : Proc σ PUnit).wp observing (fun _ _ later =>
      trace.Moved (commands.flatMap fun command => placesOf (.redis command)) later) memory
      trace := by
  refine Task.wp_alone_bind (Task.wp_mono (commands_move writes) ?_)
  rintro _ after later - ⟨rfl, moved⟩
  have ends : (await .endPipeline >>= orThrow : Proc σ PUnit).Uses settling :=
    Task.uses_bind (Task.uses_await ⟨rfl, fun _ _ => rfl⟩) fun outcome => uses_orThrow outcome
  refine Task.wp_mono (wp_settling ends) fun _ _ last _ still => ?_
  have whole := moved.trans still
  rwa [List.append_nil] at whole

theorem initializeExecution_moves (record : ExecutionRecord) :
    (initializeExecution record : Proc σ PUnit).wp observing (fun _ _ later =>
      ∃ written, trace.Moved [.recorded written] later ∧
        written.targetAgentType = record.targetAgentType ∧
        written.streamName = record.streamName) memory trace := by
  refine Task.wp_alone_bind (Task.wp_alone_await ?_)
  rintro now _ rfl
  have step : trace.Moved (placesOf .now) (trace.observe .now now) :=
    trace.moved_observe (fun _ => rfl) now
  refine Task.wp_mono (pipeline_moves fun command listed trace reply => ?_) ?_
  · simp only [List.mem_cons, List.not_mem_nil, or_false] at listed
    rcases listed with rfl | rfl | rfl
    · rfl
    · rfl
    · rfl
  · intro _ _ later _ moved
    exact ⟨_, step.trans moved, rfl, rfl⟩

def Place.Writes (streamName : Option Key) (agentType : String) : Place → Prop
  | .appended stream command =>
      streamName = some stream ∧ command.header.targetAgentType = agentType
  | .queued _ _ => False
  | .recorded record => record.targetAgentType = agentType ∧ record.streamName = streamName

def OnlyRecords (places : List Place) : Prop :=
  ∀ place ∈ places, ∃ record, place = .recorded record

structure Delivers (before : DispatchTrace) (streamName : Option Key) (agentType : String)
    (after : DispatchTrace) (added : List Place) : Prop where
  moved : before.Moved added after
  writes : ∀ place ∈ added, place.Writes streamName agentType

theorem record_delivers (record : ExecutionRecord) :
    (initializeExecution record : Proc σ PUnit).wp observing (fun _ _ later =>
      ∃ added, Delivers trace record.streamName record.targetAgentType later added ∧
        OnlyRecords added) memory trace := by
  refine Task.wp_mono (initializeExecution_moves record) ?_
  rintro _ _ later - ⟨written, moved, target, stream⟩
  refine ⟨_, ⟨moved, fun place listed => ?_⟩, fun place listed => ?_⟩
  · obtain rfl := List.mem_singleton.mp listed
    exact ⟨target, stream⟩
  · obtain rfl := List.mem_singleton.mp listed
    exact ⟨written, rfl⟩

theorem Delivers.append {before after last : DispatchTrace} {streamName : Option Key}
    {agentType : String} {added more : List Place}
    (first : Delivers before streamName agentType after added)
    (second : Delivers after streamName agentType last more) :
    Delivers before streamName agentType last (added ++ more) where
  moved := first.moved.trans second.moved
  writes place listed := by
    rcases List.mem_append.mp listed with earlier | later
    · exact first.writes place earlier
    · exact second.writes place later

theorem Delivers.nothing (trace : DispatchTrace) (streamName : Option Key) (agentType : String) :
    Delivers trace streamName agentType trace [] where
  moved := .refl trace
  writes _ listed := nomatch listed

theorem append_delivers {streamName : Key} {agentType : String} (command : GatewayCommand)
    (aimed : command.header.targetAgentType = agentType)
    (reply : Op.Reply (.redis (.xadd streamName (.command command)))) :
    Delivers trace (some streamName) agentType
      (trace.observe (.redis (.xadd streamName (.command command))) reply)
      [.appended streamName command] where
  moved := trace.moved_observe (fun _ => rfl) reply
  writes place listed := by
    obtain rfl := List.mem_singleton.mp listed
    exact ⟨rfl, aimed⟩

theorem publish_delivers (dispatch : Dispatch) (streamName : Key) {agentType : String}
    (routeStatus : String) (queued : Bool)
    (aimed : (retarget agentType dispatch.command).header.targetAgentType = agentType) :
    (dispatch.publish streamName agentType routeStatus queued : Proc σ _).wp observing
      (fun outcome _ later => ∃ added, Delivers trace (some streamName) agentType later added ∧
        (if queued = true then OnlyRecords added
          else Place.appended streamName (retarget agentType dispatch.command) ∈ added) ∧
        ∀ response, outcome = .ok response → response.success = true ∧
          response.targetAgentType = agentType) memory trace := by
  have tracked : (Task.when dispatch.resumed.isNone
      (Task.failSoft (initializeExecution { dispatch.record AgentState.queued with
        targetAgentType := agentType
        streamName := some streamName
        routeStatus := routeStatus })) : Proc σ PUnit).wp observing (fun outcome _ later =>
      outcome = .ok ⟨⟩ ∧ ∃ added, Delivers trace (some streamName) agentType later added ∧
        OnlyRecords added) memory trace := by
    refine Task.wp_alone_when (fun _ => ?_) fun _ =>
      ⟨rfl, [], .nothing _ _ _, fun _ listed => nomatch listed⟩
    refine Task.wp_alone_tryCatch (Task.wp_mono (record_delivers _) ?_)
    rintro outcome after later - recorded
    cases outcome with
    | ok _ => exact ⟨rfl, recorded⟩
    | error error => exact Task.wp_alone_pure ⟨rfl, recorded⟩
  refine Task.wp_alone_bind (Task.wp_mono tracked ?_)
  rintro _ after later - ⟨rfl, added, recorded, only⟩
  cases queued with
  | true =>
      refine Task.wp_alone_bind (Task.wp_alone_pure (Task.wp_alone_pure ?_))
      refine ⟨added, recorded, only, ?_⟩
      rintro response ⟨⟩
      exact ⟨rfl, rfl⟩
  | false =>
      refine Task.wp_alone_bind (Task.wp_alone_bind (wp_redis_observing fun reply => ?_))
      have appended := recorded.append (append_delivers _ aimed reply)
      have listed : Place.appended streamName (retarget agentType dispatch.command) ∈
          added ++ [.appended streamName (retarget agentType dispatch.command)] := by
        simp
      cases reply with
      | error message => exact ⟨_, appended, listed, nofun⟩
      | ok entryId =>
          refine Task.wp_alone_pure (Task.wp_alone_pure ⟨_, appended, listed, ?_⟩)
          rintro response ⟨⟩
          exact ⟨rfl, rfl⟩

theorem registerWait_settling (params : RegisterWaitParams) :
    (registerWait params : Proc σ PUnit).Uses settling := by
  refine Task.uses_failSoft ?_
  refine Task.uses_bind (Task.uses_await ⟨rfl, fun _ _ => rfl⟩) fun now => ?_
  refine uses_redis_bind ⟨rfl, fun _ _ => rfl⟩ fun _ _ => ?_
  exact Task.uses_failSoft
    (uses_redis_bind ⟨rfl, fun _ _ => rfl⟩ fun _ _ => Task.uses_pure _)

theorem deliverCall_delivers (input : CallAgentPublishInput) (command : AskAgentCommand)
    (record : ExecutionRecord) (availability : AvailabilityResult) :
    (deliverCall input command record availability : Proc σ _).wp observing
      (fun outcome _ later => ∃ added, Delivers trace
          (some (availability.streamName.getD (.ctrlStream input.targetAgentType)))
          (orElseText availability.selectedAgentType input.targetAgentType) later added ∧
        (availability.status = .queuePending → OnlyRecords added) ∧
        ∀ result, outcome = .ok result → result.targetAgentType =
          orElseText availability.selectedAgentType input.targetAgentType) memory trace := by
  unfold deliverCall
  dsimp only
  generalize availability.streamName.getD (.ctrlStream input.targetAgentType) = streamName
  generalize orElseText availability.selectedAgentType input.targetAgentType = agentType
  have waits : (Task.when input.waitForReply (registerWait (callWait input record)) :
      Proc σ PUnit).Uses settling :=
    Task.uses_when fun _ => registerWait_settling _
  refine Task.wp_alone_bind (Task.wp_mono (wp_settling waits) ?_)
  intro outcome after later _ still
  have nothing : Delivers trace (some streamName) agentType later [] :=
    ⟨still, fun _ listed => nomatch listed⟩
  have empty : OnlyRecords [] := fun _ listed => nomatch listed
  cases outcome with
  | error error => exact ⟨_, nothing, fun _ => empty, nofun⟩
  | ok registered =>
      refine Task.wp_alone_bind (Task.wp_mono (record_delivers _) ?_)
      rintro outcome after later - ⟨added, recorded, only⟩
      have both := nothing.append recorded
      cases outcome with
      | error error => exact ⟨_, both, fun _ => only, nofun⟩
      | ok _ =>
          refine Task.wp_alone_bind (Task.wp_alone_when (fun sends => ?_) fun _ => ?_)
          · refine Task.wp_alone_bind (wp_redis_observing fun reply => ?_)
            have appended := both.append (append_delivers
              (.askAgent (retargetAskAgentCommand command agentType)) rfl reply)
            cases reply with
            | error message => exact ⟨_, appended, fun queued => absurd queued sends, nofun⟩
            | ok entryId =>
                refine Task.wp_alone_pure (Task.wp_alone_pure
                  ⟨_, appended, fun queued => absurd queued sends, ?_⟩)
                rintro result ⟨⟩
                rfl
          · refine Task.wp_alone_pure ⟨_, both, fun _ => only, ?_⟩
            rintro result ⟨⟩
            rfl

end

end ByFramework
