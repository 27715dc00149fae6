import ByFramework.Directory

/-! An instance that was unregistered or fell silent, and the calls that look for it later. -/

namespace ByFramework

open Async Collections

namespace Directory

/-- How an instance leaves: its details are deleted, or its heartbeats end. -/
inductive Departure where
  | unregistered
  | silenced (healthThresholdMs : Int)

namespace Departure

/-- The instance has no details, or its last heartbeat was too long ago at the given time. -/
def Gone (serviceName id : String) (since : Int) (store : DirectoryStore) : Departure → Prop
  | .unregistered => ∀ entry ∈ store.hash (.sdInstanceDetails serviceName), entry.1 ≠ id
  | .silenced healthThresholdMs => ∀ entry ∈ store.scored (.sdActiveInstances serviceName),
      entry.1 = id → entry.2 + healthThresholdMs < since

def Returns (serviceName id : String) : Departure → DirectoryOp → Prop
  | .unregistered, .redis (.hset key fields) =>
      key = .sdInstanceDetails serviceName ∧ id ∈ fields.map Prod.fst
  | .silenced _, .redis (.zadd key member _) =>
      key = .sdActiveInstances serviceName ∧ member = id
  | _, _ => False

def StaysGone {ι : Type} (serviceName id : String) (departure : Departure) :
    Event directoryEffects ι → Prop
  | .issue _ op _ => ¬ departure.Returns serviceName id op
  | _ => True

/-- Readers go by a threshold that the silence exceeds. -/
def Within (reading : InstanceReading) : Departure → Prop
  | .unregistered => True
  | .silenced healthThresholdMs => reading.healthThresholdMs ≤ healthThresholdMs

end Departure

def Rid (serviceName id : String) (cache : DiscoveryCache) : Prop :=
  ∀ instances, cache.cache.get? serviceName = some instances → ∀ data ∈ instances, data.id ≠ id

/-- A call that looks at its cache when all that was kept before the departure is stale. -/
def Late (since : Int) (client : DirectoryClient) (notes : CallNotes) : Prop :=
  ∃ seen, notes.looked = some seen ∧ since + 1000 * client.cacheInterval < seen.now

section

variable {departure : Departure} {serviceName id : String} {since : Int}

/-- What a reader of the service has seen of the instance that left. -/
structure Spared (departure : Departure) (id : String) (since : Int) (reading : InstanceReading)
    (directory : Directory) (notes : CallNotes) : Prop where
  asked : ∀ asked, notes.asked = some asked → since ≤ asked
  active : departure ≠ .unregistered → id ∉ notes.active
  details : ∀ data ∈ notes.details, data.id ≠ id
  kept : notes.kept = true → Rid reading.serviceName id (directory.caches reading.client)
  looked : ∀ seen, notes.looked = some seen → isStale reading.client seen = false →
    Late since reading.client notes → Rid reading.serviceName id (directory.caches reading.client)
  shown : reading.forceRefresh = true ∨ Late since reading.client notes →
    ∀ data ∈ notes.shown, data.id ≠ id

/-- What holds once an instance has left. -/
structure Vanished (departure : Departure) (serviceName id : String) (since : Int)
    (directory : Directory) : Prop where
  began : 0 ≤ since
  passed : since ≤ directory.store.clock
  gone : departure.Gone serviceName id since directory.store
  stored : ∀ entry ∈ directory.store.hash (.sdInstanceDetails serviceName),
    ∃ data, entry = (data.id, toJSON data)
  listed : ∀ client, Rid serviceName id (directory.caches client) ∨
    ∀ at_, (directory.caches client).lastRefresh.get? serviceName = some at_ → at_ ≤ since

theorem Departure.Gone.added {op : DirectoryOp} {before after : DirectoryStore}
    (gone : departure.Gone serviceName id since before) (added : Adds op before after)
    (stays : ¬ departure.Returns serviceName id op) :
    departure.Gone serviceName id since after := by
  cases departure with
  | unregistered =>
      intro entry inside
      rcases added.hash _ entry inside with earlier | written
      · exact gone entry earlier
      · rintro rfl
        subst written
        exact stays ⟨rfl, by simp⟩
  | silenced healthThresholdMs =>
      intro entry inside same
      rcases added.scored _ entry inside with earlier | written
      · exact gone entry earlier same
      · subst written
        exact absurd ⟨rfl, same⟩ stays

theorem Departure.Gone.advance {store : DirectoryStore}
    (gone : departure.Gone serviceName id since store) (now : Int) :
    departure.Gone serviceName id since (store.advance now) := by
  cases departure with
  | unregistered => exact fun entry inside => gone entry (hash_advance_sub inside)
  | silenced healthThresholdMs =>
      intro entry inside
      simp only [Redis.Store.advance] at inside
      split at inside
      · cases inside
      · exact gone entry inside

theorem Vanished.rid_of_late {directory : Directory} {client : DirectoryClient} {seen : CacheLook}
    (vanished : Vanished departure serviceName id since directory)
    (answered : (directory.answer (.look client serviceName)).1 = seen)
    (good : isStale client seen = false) (late : since + 1000 * client.cacheInterval < seen.now) :
    Rid serviceName id (directory.caches client) := by
  rcases vanished.listed client with rid | old
  · exact rid
  · exfalso
    have recent : seen.last ≤ since := by
      rw [← answered]
      change ((directory.caches client).lastRefresh.get? serviceName).getD 0 ≤ since
      cases known : (directory.caches client).lastRefresh.get? serviceName with
      | none => exact vanished.began
      | some at_ => exact old at_ known
    have fresh : ¬ 1000 * client.cacheInterval < (seen.now : ℚ) - seen.last := by
      simpa [isStale] using good
    have recent : (seen.last : ℚ) ≤ since := by exact_mod_cast recent
    linarith

section

variable {mayFail : Prop} {before after : Directory} {op : DirectoryOp} {reply : op.Reply}

theorem rid_of_served (served : Directory.serve mayFail before op reply after)
    {client : DirectoryClient}
    (keeps : ∀ instances, op = .keep client serviceName instances →
      ∀ data ∈ instances, data.id ≠ id)
    (rid : Rid serviceName id (before.caches client)) :
    Rid serviceName id (after.caches client) := by
  intro instances known
  rcases cache_of_served client serviceName served with ⟨same, -⟩ | ⟨kept, isKeep, now, -⟩ |
    ⟨-, gone, -⟩
  · exact rid instances (same ▸ known)
  · rw [now] at known
    cases known
    exact keeps instances isKeep
  · rw [gone] at known
    cases known

theorem Vanished.issue (vanished : Vanished departure serviceName id since before)
    (own : ∀ command, op = .redis command → OwnCommand command)
    (stays : ¬ departure.Returns serviceName id op)
    (keeps : ∀ client instances, op = .keep client serviceName instances →
      ∀ data ∈ instances, data.id ≠ id)
    (served : Directory.serve mayFail before op reply after) :
    Vanished departure serviceName id since after := by
  have added := adds_of_served own served
  refine ⟨vanished.began, ?_, vanished.gone.added added stays, ?_, ?_⟩
  · rw [added.clock]
    exact vanished.passed
  · intro entry inside
    rcases added.hash _ entry inside with earlier | written
    · exact vanished.stored entry earlier
    · subst written
      obtain ⟨other, data, isHset | isSadd | ⟨now, isZadd⟩ | isZrem⟩ := own _ rfl
      · cases isHset
        exact ⟨data, rfl⟩
      · cases isSadd
      · cases isZadd
      · cases isZrem
  · intro client
    rcases cache_of_served client serviceName served with ⟨-, same⟩ | ⟨kept, isKeep, now, -⟩ |
      ⟨-, -, gone⟩
    · rcases vanished.listed client with rid | old
      · exact .inl (rid_of_served served (keeps client) rid)
      · exact .inr fun at_ known => old at_ (same ▸ known)
    · refine .inl fun instances known => ?_
      rw [now] at known
      cases known
      exact keeps client kept isKeep
    · exact .inr fun at_ known => by
        rw [gone] at known
        cases known

theorem Spared.frame {reading : InstanceReading} {notes : CallNotes}
    (spared : Spared departure id since reading before notes)
    (kept : Rid reading.serviceName id (before.caches reading.client) →
      Rid reading.serviceName id (after.caches reading.client)) :
    Spared departure id since reading after notes where
  asked := spared.asked
  active := spared.active
  details := spared.details
  kept := fun known => kept (spared.kept known)
  looked := fun seen known good late => kept (spared.looked seen known good late)
  shown := spared.shown

theorem spared_fresh (reading : InstanceReading) (directory : Directory) :
    Spared departure id since reading directory {} where
  asked := by rintro asked ⟨⟩
  active := fun _ => List.not_mem_nil
  details := by rintro data ⟨⟩
  kept := by rintro ⟨⟩
  looked := by rintro seen ⟨⟩
  shown := by rintro - data ⟨⟩

theorem Spared.issue {reading : InstanceReading} {notes : CallNotes}
    (spared : Spared departure id since reading before notes)
    (vanished : Vanished departure reading.serviceName id since before)
    (within : departure.Within reading) (permitted : permits (some reading) notes op)
    (served : Directory.serve mayFail before op reply after) :
    Spared departure id since reading after (noted notes op reply) := by
  have keeps : ∀ instances, op = .keep reading.client reading.serviceName instances →
      ∀ data ∈ instances, data.id ≠ id := by
    rintro instances rfl
    obtain ⟨own, ⟨⟩, -, -, rfl⟩ := permitted
    exact spared.details
  have framed := spared.frame (rid_of_served served keeps)
  cases op with
  | now =>
      cases congrArg Prod.fst served
      exact ⟨by rintro asked ⟨⟩; exact vanished.passed, framed.active, framed.details, framed.kept,
        framed.looked, framed.shown⟩
  | zrangeFrom key low =>
      cases reply with
      | error message => exact framed
      | ok instanceIds =>
          refine ⟨framed.asked, fun silenced inside => ?_, framed.details, framed.kept,
            framed.looked, framed.shown⟩
          obtain ⟨own, ⟨⟩, rfl, asked, known, rfl⟩ := permitted
          obtain ⟨score, stored, recent⟩ := scored_of_zrangeFrom served inside
          have later := spared.asked asked known
          cases departure with
          | unregistered => exact silenced rfl
          | silenced healthThresholdMs =>
              have early := vanished.gone (id, score) stored rfl
              have short : reading.healthThresholdMs ≤ healthThresholdMs := within
              omega
  | hmget key fields =>
      cases reply with
      | error message => exact framed
      | ok detailsRaw =>
          refine ⟨framed.asked, framed.active, fun data fetched => ?_, framed.kept,
            framed.looked, framed.shown⟩
          obtain ⟨own, ⟨⟩, rfl, rfl⟩ := permitted
          obtain ⟨field, asked, json, inside, parsed⟩ := fetched_of_hmget served fetched
          obtain ⟨writer, same⟩ := vanished.stored _ inside
          cases same
          cases (fromJSON_toJSON writer).symm.trans parsed
          cases departure with
          | unregistered => exact vanished.gone _ inside
          | silenced healthThresholdMs =>
              rintro rfl
              exact spared.active (by rintro ⟨⟩) asked
  | look client serviceName =>
      obtain ⟨own, ⟨⟩, rfl, rfl⟩ := permitted
      obtain rfl := congrArg Prod.snd served
      refine ⟨by rintro asked ⟨⟩, fun _ => List.not_mem_nil, by rintro data ⟨⟩, by rintro ⟨⟩,
        ?_, by rintro - data ⟨⟩⟩
      rintro seen ⟨⟩ good ⟨_, ⟨⟩, late⟩
      exact vanished.rid_of_late (congrArg Prod.fst served) good late
  | keep client serviceName instances =>
      obtain ⟨own, ⟨⟩, rfl, rfl, rfl⟩ := permitted
      refine ⟨framed.asked, framed.active, framed.details, fun _ listed known => ?_,
        framed.looked, framed.shown⟩
      obtain rfl := congrArg Prod.snd served
      simp only [Directory.answer, Directory.withCache, Function.update_self,
        InsertionMap.get?_set_self] at known
      cases known
      exact spared.details
  | cached client serviceName =>
      obtain ⟨own, ⟨⟩, rfl, rfl, settled⟩ := permitted
      refine ⟨framed.asked, framed.active, framed.details, framed.kept, framed.looked, ?_⟩
      intro reason data inside
      have rid : Rid reading.serviceName id (before.caches reading.client) := by
        rcases settled with kept | ⟨unforced, seen, looked, good, -⟩
        · exact spared.kept kept
        · refine spared.looked seen looked good (reason.resolve_left ?_)
          rw [unforced]
          exact Bool.false_ne_true
      obtain ⟨instances, known, listed⟩ := listed_of_cached served inside
      exact rid instances known data listed
  | _ => exact framed

end

section

variable {ι : Type} [DecidableEq ι] {mayFail : Prop} {calls : ι → DirectoryCall}

structure Rests (calls : ι → DirectoryCall) (departure : Departure) (serviceName id : String)
    (since : Int) (past : List (Event directoryEffects ι)) (directory : Directory) : Prop where
  vanished : Vanished departure serviceName id since directory
  spared : ∀ index reading, (calls index).reading = some reading →
    reading.serviceName = serviceName →
      Spared departure id since reading directory (notesOf calls index past)

theorem Rests.quiet {past : List (Event directoryEffects ι)} {directory : Directory}
    {event : Event directoryEffects ι}
    (rests : Rests calls departure serviceName id since past directory)
    (quiet : ∀ index op reply, event ≠ .issue index op reply) :
    Rests calls departure serviceName id since (past ++ [event]) directory := by
  refine ⟨rests.vanished, fun index reading isReading named => ?_⟩
  rcases notesOf_quiet past quiet index with same | fresh
  · rw [same]
    exact rests.spared index reading isReading named
  · rw [fresh]
    exact spared_fresh reading directory

theorem Rests.advance {past : List (Event directoryEffects ι)} {directory : Directory}
    (rests : Rests calls departure serviceName id since past directory) {now : Int}
    (later : directory.store.clock ≤ now) :
    Rests calls departure serviceName id since past
      { directory with store := directory.store.advance now } where
  vanished :=
    { began := rests.vanished.began
      passed := rests.vanished.passed.trans later
      gone := rests.vanished.gone.advance now
      stored := fun entry inside => rests.vanished.stored entry (hash_advance_sub inside)
      listed := rests.vanished.listed }
  spared := fun index reading isReading named =>
    (rests.spared index reading isReading named).frame fun rid => rid

theorem Rests.issue {past : List (Event directoryEffects ι)} {before after : Directory} {index : ι}
    {op : DirectoryOp} {reply : op.Reply}
    (within : ∀ index reading, (calls index).reading = some reading → departure.Within reading)
    (rests : Rests calls departure serviceName id since past before)
    (permitted : permits (calls index).reading (notesOf calls index past) op)
    (stays : ¬ departure.Returns serviceName id op)
    (served : Directory.serve mayFail before op reply after) :
    Rests calls departure serviceName id since (past ++ [.issue index op reply]) after := by
  have own (command : DirectoryCommand) (same : op = .redis command) : OwnCommand command := by
    subst same
    exact permitted
  have keeps (client : DirectoryClient) (instances : List ServiceInstanceData)
      (isKeep : op = .keep client serviceName instances) : ∀ data ∈ instances, data.id ≠ id := by
    subst isKeep
    obtain ⟨reading, isReading, -, rfl, rfl⟩ := permitted
    exact (rests.spared index reading isReading rfl).details
  refine ⟨rests.vanished.issue own stays keeps served, fun other reading isReading named => ?_⟩
  have spared := rests.spared other reading isReading named
  unfold notesOf
  by_cases same : index = other
  · subst same named
    rw [Watch.memo_issue]
    rw [isReading] at permitted
    exact spared.issue rests.vanished (within index reading isReading) permitted served
  · subst named
    rw [Watch.memo_issue_other _ _ _ _ same]
    exact spared.frame (rid_of_served served (keeps reading.client))

theorem Rests.step {past : List (Event directoryEffects ι)}
    {before after : Config directoryEffects Directory ι
      (Except JsError (List ServiceInstanceData) × Unit)}
    {event : Event directoryEffects ι}
    (within : ∀ index reading, (calls index).reading = some reading → departure.Within reading)
    (rests : Rests calls departure serviceName id since past before.state)
    (watched : Watched (fun index => callWatch (calls index)) (fun _ => ServesShown) past before)
    (stays : departure.StaysGone serviceName id event)
    (step : Step (directoryWorld mayFail calls) before event after) :
    Rests calls departure serviceName id since (past ++ [event]) after.state := by
  cases step with
  | issue found served => exact rests.issue within (watched.awaits ⟨_, found⟩) stays served
  | start free started =>
      obtain ⟨-, rfl⟩ := started
      exact rests.quiet (by rintro _ _ _ ⟨⟩)
  | stop found stopped =>
      obtain rfl := stopped
      exact rests.quiet (by rintro _ _ _ ⟨⟩)
  | lapse lapsed =>
      obtain ⟨now, later, rfl⟩ := lapsed
      exact (rests.advance later).quiet (by rintro _ _ _ ⟨⟩)

end

end

end Directory

open Directory

/-- Once an instance has left its service, and no call is in progress, a call that refreshes, or
finds its cache that much older than it may be, returns the instance no more. -/
theorem departed_instance_unserved {ι : Type} [DecidableEq ι] {mayFail : Prop}
    {calls : ι → DirectoryCall} {past events : List (Event directoryEffects ι)}
    {first last : Config directoryEffects Directory ι
      (Except JsError (List ServiceInstanceData) × Unit)}
    {departure : Departure} {serviceName id : String}
    (reached : Runs (directoryWorld mayFail calls) (fun _ _ => True)
      ⟨Directory.fresh, fun _ => none⟩ past first)
    (idle : ∀ index, first.task index = none)
    (within : ∀ index reading, (calls index).reading = some reading → departure.Within reading)
    (gone : departure.Gone serviceName id first.state.store.clock first.state.store)
    (runs : Runs (directoryWorld mayFail calls)
      (fun _ event => departure.StaysGone serviceName id event) first events last)
    {index : ι} {served : List ServiceInstanceData}
    (returned : last.result index = some (.ok served, ())) {reading : InstanceReading}
    (reads : (calls index).reading = some reading) (named : reading.serviceName = serviceName)
    (late : reading.forceRefresh = true ∨
      Late first.state.store.clock reading.client (notesOf calls index events)) :
    ∀ data ∈ served, data.id ≠ id := by
  obtain ⟨-, sound⟩ := runs_sound (fun _ => rfl) sound_fresh reached
  have initial : Rests calls departure serviceName id first.state.store.clock [] first.state := by
    refine ⟨⟨sound.timely, le_rfl, gone, fun entry inside => ?_, fun client => .inr ?_⟩,
      fun other reading _ _ => spared_fresh reading first.state⟩
    · obtain ⟨data, same, -⟩ := sound.stored serviceName entry inside
      exact ⟨data, same⟩
    · exact sound.refreshed client serviceName
  have resting : Watched (fun index => callWatch (calls index)) (fun _ => ServesShown) events last ∧
      Rests calls departure serviceName id first.state.store.clock events last.state := by
    have always : Meets (fun _ _ => True) events := fun _ _ _ _ => trivial
    refine runs.watched (fun past config =>
      Rests calls departure serviceName id first.state.store.clock past config.state)
      always idle initial ?_ ?_ ?_
    · rintro state index program after ⟨rfl, -⟩
      exact program_wp (calls index)
    · rintro past before index op reply after - - - - ⟨_, answered⟩
      exact picks_of_served answered
    · intro past before event after watched rests stays _ step _
      exact rests.step within watched stays step
  obtain ⟨watched, rests⟩ := resting
  have shown := watched index _ (Config.task_of_result returned) _ rfl trivial
  intro data inside
  exact (rests.spared index reading reads named).shown late data (shown served rfl data inside)

namespace Directory

def leavingMoves : List (Move SearchTask Int) :=
  comingMoves ++ Move.turn .leaverGoes 5 ++
    [.stop .leaverComes, .stop .stayerComes, .stop .looks, .stop .leaverGoes]

def lookingMoves : List (Move SearchTask Int) := .pass 21000 :: Move.turn .looks 6

def leftPlay : List (Event directoryEffects SearchTask) × SearchConfig :=
  searchPlayer.play ⟨Directory.fresh, fun _ => none⟩ leavingMoves

def laterPlay : List (Event directoryEffects SearchTask) × SearchConfig :=
  searchPlayer.play leftPlay.2 lookingMoves

def staysUnregistered (serviceName id : String) (_ : SearchConfig) :
    Event directoryEffects SearchTask → Bool
  | .issue _ (.redis (.hset key fields)) _ =>
      !(decide (key = .sdInstanceDetails serviceName) && decide (id ∈ fields.map Prod.fst))
  | _ => true

theorem staysUnregistered_sound (serviceName id : String)
    (config : SearchConfig) (event : Event directoryEffects SearchTask)
    (stays : staysUnregistered serviceName id config event = true) :
    Departure.unregistered.StaysGone serviceName id event := by
  unfold Departure.StaysGone
  split
  · rename_i index op reply
    intro returns
    cases op with
    | redis command =>
        cases command with
        | hset key fields => simp [staysUnregistered, returns.1, returns.2] at stays
        | _ => exact returns
    | _ => exact returns
  · trivial

theorem departed_instance_unserved_search :
    laterPlay.2.result .looks = some (.ok [stayerData], ()) ∧ stayerData.id ≠ leaverData.id := by
  have reached := search_plays.runs ⟨Directory.fresh, fun _ => none⟩ leavingMoves
  have minds : searchPlayer.minds (staysUnregistered "search" leaverData.id) leftPlay.2
      lookingMoves = true := by decide +kernel
  have runs := search_plays.runs_minding (staysUnregistered_sound "search" leaverData.id)
    leftPlay.2 lookingMoves minds
  have idle : ∀ index, (leftPlay.2.task index).isNone = true := by
    intro index
    cases index <;> decide +kernel
  have gone : Departure.unregistered.Gone "search" leaverData.id leftPlay.2.state.store.clock
      leftPlay.2.state.store := by
    have absent : ∀ entry ∈ leftPlay.2.state.store.hash (.sdInstanceDetails "search"),
        entry.1 ≠ leaverData.id := by decide +kernel
    exact absent
  have returned : laterPlay.2.result .looks = some (.ok [stayerData], ()) := by decide +kernel
  have late : Late leftPlay.2.state.store.clock browser
      (notesOf searchCalls .looks laterPlay.1) :=
    ⟨⟨21000, 1000, true⟩, by decide +kernel, by decide +kernel⟩
  have within : ∀ index reading, (searchCalls index).reading = some reading →
      Departure.unregistered.Within reading := fun _ _ _ => trivial
  have unserved := departed_instance_unserved reached
    (fun index => Option.isNone_iff_eq_none.mp (idle index)) within gone runs returned rfl rfl
    (.inr late)
  exact ⟨returned, unserved stayerData (by decide)⟩

end Directory

end ByFramework
