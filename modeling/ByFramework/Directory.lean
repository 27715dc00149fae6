import ByFramework.Async.Alone
import ByFramework.Async.Watch
import ByFramework.DirectoryCore
import ByFramework.Redis.Membership

/-! What is served of a service's instances: nothing that is not registered, nothing departed. -/

namespace ByFramework

open Async Collections

namespace Directory

structure CallNotes where
  looked : Option CacheLook := none
  asked : Option Int := none
  active : List String := []
  details : List ServiceInstanceData := []
  kept : Bool := false
  shown : List ServiceInstanceData := []

def noted (notes : CallNotes) : (op : DirectoryOp) → op.Reply → CallNotes
  | .look _ _, seen => { looked := some seen }
  | .now, now => { notes with asked := some now }
  | .zrangeFrom _ _, .ok instanceIds => { notes with active := instanceIds }
  | .hmget _ _, .ok detailsRaw =>
      { notes with details := detailsRaw.filterMap fun raw => raw.bind fromJSON }
  | .keep _ _ _, _ => { notes with kept := true }
  | .cached _ _, instances => { notes with shown := instances }
  | _, _ => notes

def CallNotes.settled (notes : CallNotes) (reading : InstanceReading) : Prop :=
  notes.kept = true ∨ reading.forceRefresh = false ∧ ∃ seen, notes.looked = some seen ∧
    isStale reading.client seen = false ∧ seen.has = true

def OwnCommand (command : DirectoryCommand) : Prop :=
  ∃ serviceName data,
    command = .hset (.sdInstanceDetails serviceName) [(data.id, toJSON data)] ∨
    command = .sadd .sdServices serviceName ∨
    (∃ now, command = .zadd (.sdActiveInstances serviceName) data.id now) ∨
    command = .zrem (.sdActiveInstances serviceName) data.id

def permits (reading : Option InstanceReading) (notes : CallNotes) : DirectoryOp → Prop
  | .redis command => OwnCommand command
  | .zrangeFrom key low => ∃ own, reading = some own ∧ key = .sdActiveInstances own.serviceName ∧
      ∃ asked, notes.asked = some asked ∧ low = asked - own.healthThresholdMs
  | .hmget key fields => ∃ own, reading = some own ∧ key = .sdInstanceDetails own.serviceName ∧
      fields = notes.active
  | .look client serviceName => ∃ own, reading = some own ∧ client = own.client ∧
      serviceName = own.serviceName
  | .keep client serviceName instances => ∃ own, reading = some own ∧ client = own.client ∧
      serviceName = own.serviceName ∧ instances = notes.details
  | .cached client serviceName => ∃ own, reading = some own ∧ client = own.client ∧
      serviceName = own.serviceName ∧ notes.settled own
  | .pickNext client serviceName instances => ∃ own, reading = some own ∧ client = own.client ∧
      serviceName = own.serviceName ∧ instances = notes.shown
  | _ => True

def PicksOffered : (op : DirectoryOp) → op.Reply → Prop
  | .pickNext _ _ instances, chosen => ∀ data, chosen = some data → data ∈ instances
  | _, _ => True

def callWatch (call : DirectoryCall) : Watch directoryEffects CallNotes where
  first := {}
  note := noted
  allow := permits call.reading
  expect _ := PicksOffered

def ServesShown (outcome : Except JsError (List ServiceInstanceData) × Unit) (notes : CallNotes) :
    Prop :=
  ∀ served, outcome.1 = .ok served → ∀ data ∈ served, data ∈ notes.shown

section

variable {call : DirectoryCall} {reading : InstanceReading} {notes : CallNotes}

theorem redis_wp {command : DirectoryCommand} {post : Except JsError command.Reply → Unit →
      CallNotes → Prop} (own : OwnCommand command)
    (holds : ∀ outcome, post outcome () notes) :
    (redis command).wp (callWatch call).setting post () notes := by
  refine Task.wp_alone_bind (Task.wp_alone_issue own ?_)
  rintro (message | reply) after ⟨-, rfl⟩
  · exact Task.wp_alone_throw (holds _)
  · exact Task.wp_alone_pure (holds _)

theorem sendHeartbeat_wp (registry : String) {post : Except JsError Unit → Unit → CallNotes → Prop}
    (holds : ∀ outcome notes, post outcome () notes) :
    (sendHeartbeat registry).wp (callWatch call).setting post () notes := by
  refine Task.wp_alone_bind (Task.wp_alone_issue trivial ?_)
  rintro current after ⟨-, rfl⟩
  match current with
  | none => exact Task.wp_alone_pure (holds _ _)
  | some (serviceName, data) =>
      refine Task.wp_alone_bind (Task.wp_alone_issue trivial ?_)
      rintro now after ⟨-, rfl⟩
      refine Task.wp_alone_bind (redis_wp ⟨serviceName, data, .inr (.inr (.inl ⟨now, rfl⟩))⟩ ?_)
      rintro (error | reply)
      · exact holds _ _
      · exact Task.wp_alone_pure (holds _ _)

theorem silent_wp {task : DirectoryProc Unit}
    (runs : task.wp (callWatch call).setting (fun _ _ _ => True) () {}) :
    (do
      task
      pure [] : DirectoryProc (List ServiceInstanceData)).wp (callWatch call).setting
      (fun outcome _ notes => ServesShown (outcome, ()) notes) () {} := by
  refine Task.wp_alone_bind (Task.wp_mono runs ?_)
  rintro (error | ⟨⟩) memory after - -
  · rintro served ⟨⟩
  · refine Task.wp_alone_pure ?_
    rintro served ⟨⟩ data ⟨⟩

theorem register_wp (registry : String) (params : RegisterParams) :
    (register registry params).wp (callWatch call).setting (fun _ _ _ => True) () notes := by
  refine Task.wp_alone_bind (Task.wp_alone_issue trivial ?_)
  rintro id after ⟨-, rfl⟩
  refine Task.wp_alone_bind (Task.wp_alone_issue trivial ?_)
  rintro ⟨⟩ after ⟨-, rfl⟩
  have own (instanceId : String) : OwnCommand (.hset (.sdInstanceDetails params.serviceName)
      [(instanceId, toJSON ⟨instanceId, params.host, params.port, params.weight,
        params.metadata⟩)]) := ⟨params.serviceName, ⟨instanceId, _, _, _, _⟩, .inl rfl⟩
  refine Task.wp_alone_bind (redis_wp (own _) ?_)
  rintro (error | reply)
  · trivial
  refine Task.wp_alone_bind (redis_wp
    ⟨params.serviceName, ⟨"", "", 0, 1, []⟩, .inr (.inl rfl)⟩ ?_)
  rintro (error | reply)
  · trivial
  exact sendHeartbeat_wp registry fun _ _ => trivial

theorem unregister_wp (registry : String) :
    (unregister registry).wp (callWatch call).setting (fun _ _ _ => True) () notes := by
  have dismissed {notes : CallNotes} : (await (.dismiss registry)).wp (callWatch call).setting
      (fun _ _ _ => True) () notes := Task.wp_alone_issue trivial fun _ _ _ => trivial
  refine Task.wp_alone_bind (Task.wp_alone_issue trivial ?_)
  rintro current after ⟨-, rfl⟩
  match current with
  | none => exact dismissed
  | some (serviceName, data) =>
      refine Task.wp_alone_bind (Task.wp_alone_issue trivial ?_)
      rintro removed after ⟨-, rfl⟩
      refine Task.wp_alone_bind (Task.wp_alone_issue
        ⟨serviceName, data, .inr (.inr (.inr rfl))⟩ ?_)
      rintro reply after ⟨-, rfl⟩
      refine Task.wp_alone_bind (Task.wp_alone_issue trivial ?_)
      rintro (error | ⟨⟩) after ⟨-, rfl⟩
      · exact Task.wp_alone_bind (Task.wp_alone_throw trivial)
      · exact dismissed

theorem refreshService_wp (known : call.reading = some reading) (bare : notes.details = []) :
    (refreshService reading.client reading.serviceName reading.healthThresholdMs).wp
      (callWatch call).setting (fun outcome _ notes => outcome = .ok () → notes.kept = true) ()
      notes := by
  have keeps {notes : CallNotes} {instances : List ServiceInstanceData}
      (own : instances = notes.details) :
      (await (.keep reading.client reading.serviceName instances)).wp (callWatch call).setting
        (fun outcome _ notes => outcome = .ok () → notes.kept = true) () notes := by
    refine Task.wp_alone_issue ⟨reading, known, rfl, rfl, own⟩ ?_
    rintro ⟨⟩ after ⟨-, rfl⟩ -
    rfl
  refine Task.wp_alone_bind (Task.wp_alone_issue trivial ?_)
  rintro nowMs after ⟨-, rfl⟩
  refine Task.wp_alone_bind (Task.wp_alone_issue ⟨reading, known, rfl, nowMs, rfl, rfl⟩ ?_)
  rintro (message | instanceIds) after ⟨-, rfl⟩
  · exact Task.wp_alone_bind (Task.wp_alone_throw (by rintro ⟨⟩))
  refine Task.wp_alone_bind (Task.wp_alone_pure ?_)
  dsimp only
  split
  · exact keeps bare.symm
  · refine Task.wp_alone_bind (Task.wp_alone_issue ⟨reading, known, rfl, rfl⟩ ?_)
    rintro (message | detailsRaw) after ⟨-, rfl⟩
    · exact Task.wp_alone_bind (Task.wp_alone_throw (by rintro ⟨⟩))
    · exact Task.wp_alone_bind (Task.wp_alone_pure (keeps rfl))

theorem getInstances_wp (known : call.reading = some reading) :
    (getInstances reading.client reading.serviceName reading.forceRefresh
      reading.healthThresholdMs).wp (callWatch call).setting
      (fun outcome _ notes => ∀ instances, outcome = .ok instances → instances = notes.shown) ()
      {} := by
  have shows {notes : CallNotes} (settled : notes.settled reading) :
      (await (.cached reading.client reading.serviceName)).wp (callWatch call).setting
        (fun outcome _ notes => ∀ instances, outcome = .ok instances → instances = notes.shown) ()
        notes := by
    refine Task.wp_alone_issue ⟨reading, known, rfl, rfl, settled⟩ ?_
    rintro shown after ⟨-, rfl⟩ instances ⟨⟩
    rfl
  refine Task.wp_alone_bind (Task.wp_alone_issue ⟨reading, known, rfl, rfl⟩ ?_)
  rintro seen after ⟨-, rfl⟩
  dsimp only
  split
  · refine Task.wp_alone_bind (Task.wp_mono (refreshService_wp known rfl) ?_)
    rintro (error | ⟨⟩) memory notes - kept
    · rintro instances ⟨⟩
    · exact shows (.inl (kept rfl))
  · rename_i good
    simp only [Bool.or_eq_true, not_or, Bool.not_eq_true, Bool.not_eq_false'] at good
    obtain ⟨⟨unforced, fresh⟩, has⟩ := good
    exact Task.wp_alone_bind (Task.wp_alone_pure (shows (.inr ⟨unforced, seen, rfl, fresh, has⟩)))

theorem discover_wp {strategy : DiscoveryStrategy} (known : call.reading = some reading)
    (plain : reading.forceRefresh = false)
    (threshold : reading.healthThresholdMs = defaultHealthThresholdMs) :
    (discover reading.client reading.serviceName strategy).wp (callWatch call).setting
      (fun outcome _ notes => ∀ chosen, outcome = .ok chosen →
        ∀ data ∈ chosen, data ∈ notes.shown) () {} := by
  have lists := getInstances_wp known
  rw [plain, threshold] at lists
  refine Task.wp_alone_bind (Task.wp_mono lists ?_)
  rintro (error | instances) memory notes - shown
  · rintro chosen ⟨⟩
  obtain rfl := shown instances rfl
  dsimp only
  split
  · refine Task.wp_alone_pure ?_
    rintro chosen ⟨⟩ data ⟨⟩
  · cases strategy with
    | random =>
        refine Task.wp_alone_bind (Task.wp_alone_issue trivial ?_)
        rintro drawn after ⟨-, rfl⟩
        refine Task.wp_alone_pure ?_
        rintro chosen ⟨⟩ data picked
        exact List.mem_of_getElem? picked
    | roundRobin =>
        refine Task.wp_alone_issue ⟨reading, known, rfl, rfl, rfl⟩ ?_
        rintro chosen after ⟨offered, rfl⟩ _ ⟨⟩ data picked
        exact offered data picked

theorem program_wp (call : DirectoryCall) :
    call.program.wp (callWatch call).setting (fun outcome notes => ServesShown outcome notes)
      {} := by
  suffices runs : call.task.wp (callWatch call).setting
      (fun outcome _ notes => ServesShown (outcome, ()) notes) () {} from runs
  cases call with
  | register registry params => exact silent_wp (register_wp registry params)
  | heartbeat registry => exact silent_wp (sendHeartbeat_wp registry fun _ _ => trivial)
  | unregister registry => exact silent_wp (unregister_wp registry)
  | getInstances client serviceName forceRefresh healthThresholdMs =>
      have lists := @getInstances_wp (.getInstances client serviceName forceRefresh
        healthThresholdMs) ⟨client, serviceName, forceRefresh, healthThresholdMs⟩ rfl
      refine Task.wp_mono lists ?_
      rintro outcome memory notes - shown served returned data inside
      rwa [shown served returned] at inside
  | discover client serviceName strategy =>
      have picks := @discover_wp (.discover client serviceName strategy)
        ⟨client, serviceName, false, defaultHealthThresholdMs⟩ strategy rfl rfl rfl
      refine Task.wp_alone_bind (Task.wp_mono picks ?_)
      rintro (error | chosen) memory notes - shown
      · rintro served ⟨⟩
      · refine Task.wp_alone_pure ?_
        rintro served ⟨⟩ data inside
        exact shown chosen rfl data (Option.mem_toList.mp inside)
  | refresh client serviceName =>
      have refreshes := @refreshService_wp (.refresh client serviceName)
        ⟨client, serviceName, true, defaultHealthThresholdMs⟩ {} rfl rfl
      exact silent_wp (Task.wp_mono refreshes fun _ _ _ _ _ => trivial)
  | close client =>
      exact silent_wp (Task.wp_alone_issue trivial fun _ _ _ => trivial)

end

/-! ### What an operation does -/

structure Adds (op : DirectoryOp) (before after : DirectoryStore) : Prop where
  clock : after.clock = before.clock
  hash : ∀ key entry, entry ∈ after.hash key → entry ∈ before.hash key ∨
    op = .redis (.hset key [entry])
  scored : ∀ key entry, entry ∈ after.scored key → entry ∈ before.scored key ∨
    op = .redis (.zadd key entry.1 entry.2)

section

variable {mayFail : Prop} {before after : Directory} {op : DirectoryOp} {reply : op.Reply}

theorem Adds.refl (op : DirectoryOp) (store : DirectoryStore) : Adds op store store :=
  ⟨rfl, fun _ _ inside => .inl inside, fun _ _ inside => .inl inside⟩

theorem adds_exec {command : DirectoryCommand} (own : OwnCommand command)
    (store : DirectoryStore) : Adds (.redis command) store (store.exec command).2 := by
  obtain ⟨serviceName, data, rfl | rfl | ⟨now, rfl⟩ | rfl⟩ := own
  · refine ⟨rfl, fun key entry inside => ?_, fun _ _ inside => .inl inside⟩
    by_cases same : key = .sdInstanceDetails serviceName
    · subst same
      simp only [Redis.Store.exec, Function.update_self] at inside
      rcases Redis.mem_upsert inside with rfl | earlier
      · exact .inr rfl
      · exact .inl earlier
    · simp only [Redis.Store.exec, Function.update_of_ne same] at inside
      exact .inl inside
  · simp only [Redis.Store.exec]
    split <;> exact ⟨rfl, fun _ _ inside => .inl inside, fun _ _ inside => .inl inside⟩
  · refine ⟨rfl, fun _ _ inside => .inl inside, fun key entry inside => ?_⟩
    by_cases same : key = .sdActiveInstances serviceName
    · subst same
      simp only [Redis.Store.exec, Function.update_self, Redis.mem_insertScored] at inside
      rcases inside with rfl | earlier
      · exact .inr rfl
      · exact .inl (List.mem_filter.mp earlier).1
    · simp only [Redis.Store.exec, Function.update_of_ne same] at inside
      exact .inl inside
  · refine ⟨rfl, fun _ _ inside => .inl inside, fun key entry inside => ?_⟩
    by_cases same : key = .sdActiveInstances serviceName
    · subst same
      simp only [Redis.Store.exec, Function.update_self] at inside
      exact .inl (List.mem_filter.mp inside).1
    · simp only [Redis.Store.exec, Function.update_of_ne same] at inside
      exact .inl inside

theorem adds_hdel (key : KeyName) (field : String) (directory : Directory) :
    Adds (.hdel key field) directory.store (directory.answer (.hdel key field)).2.store := by
  refine ⟨rfl, fun other entry inside => ?_, fun _ _ inside => .inl inside⟩
  by_cases same : other = key
  · subst same
    simp only [Directory.answer, Function.update_self] at inside
    exact .inl (List.mem_filter.mp inside).1
  · simp only [Directory.answer, Function.update_of_ne same] at inside
    exact .inl inside

theorem after_of_served (served : Directory.serve mayFail before op reply after) :
    after = before ∨ after = (before.answer op).2 := by
  cases op with
  | redis command =>
      rcases served with done | ⟨-, -, same | done⟩
      · exact .inr (congrArg Prod.snd done).symm
      · exact .inl same
      · exact .inr done
  | hdel key field =>
      rcases served with done | ⟨-, -, same | done⟩
      · exact .inr (congrArg Prod.snd done).symm
      · exact .inl same
      · exact .inr done
  | zrangeFrom key low =>
      rcases served with done | ⟨-, -, same⟩
      · exact .inr (congrArg Prod.snd done).symm
      · exact .inl same
  | hmget key fields =>
      rcases served with done | ⟨-, -, same⟩
      · exact .inr (congrArg Prod.snd done).symm
      · exact .inl same
  | endPipeline => exact .inl served.1
  | uuid => exact .inl served
  | random => exact .inl served
  | _ => exact .inr (congrArg Prod.snd served).symm

theorem adds_of_served (own : ∀ command, op = .redis command → OwnCommand command)
    (served : Directory.serve mayFail before op reply after) :
    Adds op before.store after.store := by
  rcases after_of_served served with rfl | rfl
  · exact .refl _ _
  · cases op with
    | redis command => exact adds_exec (own command rfl) before.store
    | hdel key field => exact adds_hdel key field before
    | _ => exact .refl _ _

theorem cache_of_served (client : DirectoryClient) (serviceName : String)
    (served : Directory.serve mayFail before op reply after) :
    ((after.caches client).cache.get? serviceName =
        (before.caches client).cache.get? serviceName ∧
      (after.caches client).lastRefresh.get? serviceName =
        (before.caches client).lastRefresh.get? serviceName) ∨
    (∃ instances, op = .keep client serviceName instances ∧
      (after.caches client).cache.get? serviceName = some instances ∧
      (after.caches client).lastRefresh.get? serviceName = some before.store.clock) ∨
    (op = .clear client ∧ (after.caches client).cache.get? serviceName = none ∧
      (after.caches client).lastRefresh.get? serviceName = none) := by
  rcases after_of_served served with rfl | rfl
  · exact .inl ⟨rfl, rfl⟩
  cases op with
  | keep owner name instances =>
      by_cases same : client = owner
      · subst same
        by_cases other : serviceName = name
        · subst other
          refine .inr (.inl ⟨instances, rfl, ?_, ?_⟩)
          · simp [Directory.answer, Directory.withCache, InsertionMap.get?_set_self]
          · simp [Directory.answer, Directory.withCache, InsertionMap.get?_set_self]
        · refine .inl ⟨?_, ?_⟩
          · simp [Directory.answer, Directory.withCache, InsertionMap.get?_set_ne _ other]
          · simp [Directory.answer, Directory.withCache, InsertionMap.get?_set_ne _ other]
      · exact .inl (by simp [Directory.answer, Directory.withCache, same])
  | pickNext owner name instances =>
      by_cases same : client = owner
      · subst same
        exact .inl (by simp [Directory.answer, Directory.withCache])
      · exact .inl (by simp [Directory.answer, Directory.withCache, same])
  | clear owner =>
      by_cases same : client = owner
      · subst same
        refine .inr (.inr ⟨rfl, ?_⟩)
        simp [Directory.answer, Directory.withCache, InsertionMap.get?, InsertionMap.empty,
          InsertionMap.lookup]
      · exact .inl (by simp [Directory.answer, Directory.withCache, same])
  | _ => exact .inl ⟨rfl, rfl⟩

end

section

variable {ι : Type} [DecidableEq ι] {mayFail : Prop} {calls : ι → DirectoryCall}

def notesOf (calls : ι → DirectoryCall) (index : ι) (events : List (Event directoryEffects ι)) :
    CallNotes :=
  (callWatch (calls index)).memo index events

/-- Instances that were written into the details of a service. -/
def Registered (serviceName : String) (data : ServiceInstanceData)
    (events : List (Event directoryEffects ι)) : Prop :=
  ∃ index reply, .issue index (.redis (.hset (.sdInstanceDetails serviceName)
    [(data.id, toJSON data)])) reply ∈ events

omit [DecidableEq ι] in
theorem Registered.append {serviceName : String} {data : ServiceInstanceData}
    {past : List (Event directoryEffects ι)} (registered : Registered serviceName data past)
    (event : Event directoryEffects ι) : Registered serviceName data (past ++ [event]) := by
  obtain ⟨index, reply, inside⟩ := registered
  exact ⟨index, reply, List.mem_append_left _ inside⟩

theorem scored_of_zrangeFrom {key : KeyName} {low : Int} {ids : List String}
    {before after : Directory}
    (served : Directory.serve mayFail before (.zrangeFrom key low) (.ok ids) after) {id : String}
    (listed : id ∈ ids) : ∃ score, (id, score) ∈ before.store.scored key ∧ low ≤ score := by
  rcases served with done | ⟨-, ⟨message, failed⟩, -⟩
  · cases congrArg Prod.fst done
    obtain ⟨entry, found, rfl⟩ := List.mem_map.mp listed
    obtain ⟨stored, recent⟩ := List.mem_filter.mp found
    exact ⟨entry.2, stored, of_decide_eq_true recent⟩
  · cases failed

theorem fetched_of_hmget {key : KeyName} {fields : List String} {detailsRaw : List (Option JsonValue)}
    {before after : Directory}
    (served : Directory.serve mayFail before (.hmget key fields) (.ok detailsRaw) after)
    {data : ServiceInstanceData}
    (fetched : data ∈ detailsRaw.filterMap fun raw => raw.bind fromJSON) :
    ∃ field ∈ fields, ∃ json, (field, json) ∈ before.store.hash key ∧
      fromJSON json = some data := by
  obtain ⟨raw, found, parsed⟩ := List.mem_filterMap.mp fetched
  obtain ⟨json, rfl, parsed⟩ := Option.bind_eq_some_iff.mp parsed
  rcases served with done | ⟨-, ⟨message, failed⟩, -⟩
  · cases congrArg Prod.fst done
    obtain ⟨field, asked, stored⟩ := List.mem_map.mp found
    obtain ⟨front, back, split, -⟩ := List.lookup_eq_some_iff.mp stored
    exact ⟨field, asked, json, split ▸ List.mem_append_right _ List.mem_cons_self, parsed⟩
  · cases failed

theorem listed_of_cached {client : DirectoryClient} {serviceName : String}
    {instances : List ServiceInstanceData} {before after : Directory}
    (served : Directory.serve mayFail before (.cached client serviceName) instances after)
    {data : ServiceInstanceData} (inside : data ∈ instances) :
    ∃ kept, (before.caches client).cache.get? serviceName = some kept ∧ data ∈ kept := by
  cases congrArg Prod.fst served
  cases known : (before.caches client).cache.get? serviceName with
  | none => simp [known] at inside
  | some kept =>
      simp only [known] at inside
      exact ⟨kept, rfl, inside⟩

/-- What holds of a directory whose instances were all registered. -/
structure Sound (calls : ι → DirectoryCall) (past : List (Event directoryEffects ι))
    (directory : Directory) : Prop where
  timely : 0 ≤ directory.store.clock
  refreshed : ∀ client serviceName at_,
    (directory.caches client).lastRefresh.get? serviceName = some at_ →
      at_ ≤ directory.store.clock
  stored : ∀ serviceName, ∀ entry ∈ directory.store.hash (.sdInstanceDetails serviceName),
    ∃ data, entry = (data.id, toJSON data) ∧ Registered serviceName data past
  listed : ∀ client serviceName instances,
    (directory.caches client).cache.get? serviceName = some instances →
      ∀ data ∈ instances, Registered serviceName data past
  noted : ∀ index reading, (calls index).reading = some reading →
    ∀ data, data ∈ (notesOf calls index past).details ∨ data ∈ (notesOf calls index past).shown →
      Registered reading.serviceName data past

def shows : DirectoryOp → Bool
  | .hmget _ _ | .cached _ _ => true
  | _ => false

theorem noted_plain {notes : CallNotes} {op : DirectoryOp} {reply : op.Reply}
    (plain : shows op = false) {data : ServiceInstanceData} :
    (data ∈ (noted notes op reply).details → data ∈ notes.details) ∧
      (data ∈ (noted notes op reply).shown → data ∈ notes.shown) := by
  cases op with
  | zrangeFrom key low => cases reply <;> exact ⟨id, id⟩
  | hmget key fields => cases plain
  | cached client serviceName => cases plain
  | look client serviceName => exact ⟨List.not_mem_nil.elim, List.not_mem_nil.elim⟩
  | _ => exact ⟨id, id⟩

theorem Sound.issue {past : List (Event directoryEffects ι)} {before after : Directory} {index : ι}
    {op : DirectoryOp} {reply : op.Reply} (sound : Sound calls past before)
    (permitted : permits (calls index).reading (notesOf calls index past) op)
    (served : Directory.serve mayFail before op reply after) :
    Sound calls (past ++ [.issue index op reply]) after := by
  have own (command : DirectoryCommand) (same : op = .redis command) : OwnCommand command := by
    subst same
    exact permitted
  have added := adds_of_served own served
  refine ⟨?_, ?_, ?_, ?_, ?_⟩
  · rw [added.clock]
    exact sound.timely
  · intro client serviceName at_ known
    rw [added.clock]
    rcases cache_of_served client serviceName served with ⟨-, same⟩ | ⟨_, -, -, now⟩ | ⟨-, -, gone⟩
    · exact sound.refreshed client serviceName at_ (same ▸ known)
    · rw [now] at known
      cases known
      exact le_rfl
    · rw [gone] at known
      cases known
  · intro serviceName entry inside
    rcases added.hash _ entry inside with earlier | written
    · obtain ⟨data, same, registered⟩ := sound.stored serviceName entry earlier
      exact ⟨data, same, registered.append _⟩
    · subst written
      obtain ⟨other, data, isHset | isSadd | ⟨now, isZadd⟩ | isZrem⟩ := own _ rfl
      · cases isHset
        exact ⟨data, rfl, index, reply, List.mem_append_right _ (List.mem_singleton.mpr rfl)⟩
      · cases isSadd
      · cases isZadd
      · cases isZrem
  · intro client serviceName instances known data inside
    rcases cache_of_served client serviceName served with ⟨same, -⟩ | ⟨kept, isKeep, now, -⟩ |
      ⟨-, gone, -⟩
    · exact (sound.listed client serviceName instances (same ▸ known) data inside).append _
    · subst isKeep
      rw [now] at known
      cases known
      obtain ⟨reading, isReading, rfl, rfl, rfl⟩ := permitted
      exact (sound.noted index reading isReading data (.inl inside)).append _
    · rw [gone] at known
      cases known
  · intro other reading isReading data inside
    by_cases same : index = other
    · subst same
      unfold notesOf at inside
      rw [Watch.memo_issue] at inside
      have earlier (known : data ∈ (notesOf calls index past).details ∨
          data ∈ (notesOf calls index past).shown) :
          Registered reading.serviceName data (past ++ [.issue index op reply]) :=
        (sound.noted index reading isReading data known).append _
      cases showing : shows op with
      | false =>
          exact earlier (inside.imp (noted_plain showing).1 (noted_plain showing).2)
      | true =>
          cases op with
          | hmget key fields =>
              obtain ⟨asked, isAsked, rfl, rfl⟩ := permitted
              cases isReading.symm.trans isAsked
              cases reply with
              | error message => exact earlier inside
              | ok detailsRaw =>
                  rcases inside with fetched | shown
                  · obtain ⟨field, -, json, stored, parsed⟩ := fetched_of_hmget served fetched
                    obtain ⟨writer, same, registered⟩ := sound.stored _ (field, json) stored
                    cases same
                    cases (fromJSON_toJSON writer).symm.trans parsed
                    exact registered.append _
                  · exact earlier (.inr shown)
          | cached client serviceName =>
              obtain ⟨asked, isAsked, rfl, rfl, -⟩ := permitted
              cases isReading.symm.trans isAsked
              rcases inside with fetched | shown
              · exact earlier (.inl fetched)
              · obtain ⟨instances, known, listed⟩ := listed_of_cached served shown
                exact (sound.listed _ _ instances known data listed).append _
          | _ => cases showing
    · unfold notesOf at inside
      rw [Watch.memo_issue_other _ _ _ _ same] at inside
      exact (sound.noted other reading isReading data inside).append _

theorem notesOf_quiet (past : List (Event directoryEffects ι)) {event : Event directoryEffects ι}
    (quiet : ∀ index op reply, event ≠ .issue index op reply) (index : ι) :
    notesOf calls index (past ++ [event]) = notesOf calls index past ∨
      notesOf calls index (past ++ [event]) = {} := by
  unfold notesOf
  cases event with
  | issue other op reply => exact absurd rfl (quiet other op reply)
  | start other =>
      by_cases same : other = index
      · subst same
        exact .inr (Watch.memo_start _ _ _)
      · exact .inl (Watch.memo_start_other _ _ same)
  | stop other => exact .inl (Watch.memo_stop _ _ _ _)
  | lapse => exact .inl (Watch.memo_lapse _ _ _)

theorem hash_advance_sub {store : DirectoryStore} {now : Int} {key : KeyName}
    {entry : String × JsonValue} (inside : entry ∈ (store.advance now).hash key) :
    entry ∈ store.hash key := by
  simp only [Redis.Store.advance] at inside
  split at inside
  · cases inside
  · exact inside

theorem Sound.quiet {past : List (Event directoryEffects ι)} {directory : Directory}
    {event : Event directoryEffects ι} (sound : Sound calls past directory)
    (quiet : ∀ index op reply, event ≠ .issue index op reply) :
    Sound calls (past ++ [event]) directory := by
  refine ⟨sound.timely, sound.refreshed, ?_, ?_, ?_⟩
  · intro serviceName entry inside
    obtain ⟨data, same, registered⟩ := sound.stored serviceName entry inside
    exact ⟨data, same, registered.append _⟩
  · exact fun client serviceName instances known data inside =>
      (sound.listed client serviceName instances known data inside).append _
  · intro index reading isReading data inside
    rcases notesOf_quiet past quiet index with same | fresh
    · rw [same] at inside
      exact (sound.noted index reading isReading data inside).append _
    · rw [fresh] at inside
      rcases inside with inside | inside <;> cases inside

theorem Sound.advance {past : List (Event directoryEffects ι)} {directory : Directory}
    (sound : Sound calls past directory) {now : Int} (later : directory.store.clock ≤ now) :
    Sound calls past { directory with store := directory.store.advance now } where
  timely := sound.timely.trans later
  refreshed := fun client serviceName at_ known =>
    (sound.refreshed client serviceName at_ known).trans later
  stored := fun serviceName entry inside =>
    sound.stored serviceName entry (hash_advance_sub inside)
  listed := sound.listed
  noted := sound.noted

theorem Sound.step {past : List (Event directoryEffects ι)}
    {before after : Config directoryEffects Directory ι
      (Except JsError (List ServiceInstanceData) × Unit)}
    {event : Event directoryEffects ι} (sound : Sound calls past before.state)
    (watched : Watched (fun index => callWatch (calls index)) (fun _ => ServesShown) past before)
    (step : Step (directoryWorld mayFail calls) before event after) :
    Sound calls (past ++ [event]) after.state := by
  cases step with
  | issue found served => exact sound.issue (watched.awaits ⟨_, found⟩) served
  | start free started =>
      obtain ⟨-, rfl⟩ := started
      exact sound.quiet (by rintro _ _ _ ⟨⟩)
  | stop found stopped =>
      obtain rfl := stopped
      exact sound.quiet (by rintro _ _ _ ⟨⟩)
  | lapse lapsed =>
      obtain ⟨now, later, rfl⟩ := lapsed
      exact (sound.advance later).quiet (by rintro _ _ _ ⟨⟩)

theorem sound_fresh : Sound calls [] Directory.fresh where
  timely := le_rfl
  refreshed := by rintro client serviceName at_ ⟨⟩
  stored := by rintro serviceName entry ⟨⟩
  listed := by rintro client serviceName instances ⟨⟩
  noted := by
    intro index reading isReading data inside
    rcases inside with inside | inside <;> cases inside

theorem picks_of_served {before after : Directory} {op : DirectoryOp} {reply : op.Reply}
    (served : Directory.serve mayFail before op reply after) : PicksOffered op reply := by
  cases op with
  | pickNext client serviceName instances =>
      rintro data rfl
      exact List.mem_of_getElem? (congrArg Prod.fst served)
  | _ => trivial

theorem runs_sound {first last : Config directoryEffects Directory ι
      (Except JsError (List ServiceInstanceData) × Unit)} {events : List (Event directoryEffects ι)}
    {permitted : Config directoryEffects Directory ι _ → Event directoryEffects ι → Prop}
    (idle : ∀ index, first.task index = none) (initial : Sound calls [] first.state)
    (runs : Runs (directoryWorld mayFail calls) permitted first events last) :
    Watched (fun index => callWatch (calls index)) (fun _ => ServesShown) events last ∧
      Sound calls events last.state := by
  refine runs.watched (fun past config => Sound calls past config.state)
    (fun _ _ _ _ => trivial) idle initial ?_ ?_ ?_
  · rintro state index program after ⟨rfl, -⟩
    exact program_wp (calls index)
  · rintro past before index op reply after - - - - ⟨_, served⟩
    exact picks_of_served served
  · intro past before event after watched sound _ _ step _
    exact sound.step watched step

end

end Directory

open Directory

/-- Whatever calls on whatever clients and registries interleave, a call that returns instances of
a service returns nothing but what was registered for it, as it was registered. -/
theorem served_instances_registered {ι : Type} [DecidableEq ι] {mayFail : Prop}
    {calls : ι → DirectoryCall} {events : List (Event directoryEffects ι)}
    {last : Config directoryEffects Directory ι (Except JsError (List ServiceInstanceData) × Unit)}
    (runs : Runs (directoryWorld mayFail calls) (fun _ _ => True) ⟨Directory.fresh, fun _ => none⟩
      events last) {index : ι} {served : List ServiceInstanceData}
    (returned : last.result index = some (.ok served, ())) {reading : InstanceReading}
    (reads : (calls index).reading = some reading) :
    ∀ data ∈ served, Registered reading.serviceName data events := by
  obtain ⟨watched, sound⟩ := runs_sound (fun _ => rfl) sound_fresh runs
  have shown := watched index _ (Config.task_of_result returned) _ rfl trivial
  intro data inside
  exact sound.noted index reading reads data (.inr (shown served rfl data inside))

namespace Directory

/-! ### A service with two instances -/

def browser : DirectoryClient := { name := "browser" }

/-- One instance comes and goes, another stays; a client looks for them in between. -/
inductive SearchTask where
  | leaverComes | stayerComes | looks | leaverGoes | stayerBeats | picks | picksToo
deriving DecidableEq

def searchCalls : SearchTask → DirectoryCall
  | .leaverComes => .register "leaver" ⟨"search", "10.0.0.1", 8080, 1, []⟩
  | .stayerComes => .register "stayer" ⟨"search", "10.0.0.2", 8080, 1, []⟩
  | .looks => .getInstances browser "search" false defaultHealthThresholdMs
  | .leaverGoes => .unregister "leaver"
  | .stayerBeats => .heartbeat "stayer"
  | .picks => .discover browser "search" .roundRobin
  | .picksToo => .discover browser "search" .roundRobin

abbrev SearchConfig :=
  Config directoryEffects Directory SearchTask (Except JsError (List ServiceInstanceData) × Unit)

def searchPlayer : Player directoryEffects Directory SearchTask
    (Except JsError (List ServiceInstanceData) × Unit) Int where
  answer := Directory.answer
  program index := (searchCalls index).program
  begins directory _ := some directory
  pass directory now :=
    { directory with store := directory.store.advance (max directory.store.clock now) }

theorem search_plays : searchPlayer.Plays (directoryWorld False searchCalls) where
  serve directory op := by
    cases op with
    | redis command => exact .inl rfl
    | zrangeFrom key low => exact .inl rfl
    | hmget key fields => exact .inl rfl
    | hdel key field => exact .inl rfl
    | endPipeline => exact ⟨rfl, .inl rfl⟩
    | _ => rfl
  start _ _ _ begun := ⟨rfl, (Option.some.inj begun).symm⟩
  stop _ _ _ := rfl
  lapse _ _ := ⟨_, le_max_left _ _, rfl⟩

def comingMoves : List (Move SearchTask Int) :=
  Move.turn .leaverComes 7 ++ [.pass 1000] ++ Move.turn .stayerComes 7 ++ Move.turn .looks 6

def comingPlay : List (Event directoryEffects SearchTask) × SearchConfig :=
  searchPlayer.play ⟨Directory.fresh, fun _ => none⟩ comingMoves

def leaverData : ServiceInstanceData := ⟨"search:0", "10.0.0.1", 8080, 1, []⟩

def stayerData : ServiceInstanceData := ⟨"search:1000", "10.0.0.2", 8080, 1, []⟩

theorem served_instances_registered_search :
    Registered "search" leaverData comingPlay.1 ∧ Registered "search" stayerData comingPlay.1 := by
  have runs := search_plays.runs ⟨Directory.fresh, fun _ => none⟩ comingMoves
  have returned : comingPlay.2.result .looks = some (.ok [leaverData, stayerData], ()) := by
    decide +kernel
  have registered := served_instances_registered runs returned rfl
  exact ⟨registered leaverData (by decide), registered stayerData (by decide)⟩

end Directory

end ByFramework
