import ByFramework.Redis.Store
import ByFramework.SweepEntry

/-!
Any number of sweeps beside gate claims and registrations: which members a sweep may put into
the wait index, and when a claimed one stays out of it.
-/

namespace ByFramework

open Async

def shows (key : Key) (member : String) : (op : Op) → op.Reply → Prop
  | .redis (.zrangebyscore read _ _ _), .ok due => read = key ∧ ∃ entry ∈ due, entry.1 = member
  | _, _ => False

def spares (key : Key) (member : String) : Contract effects where
  allowed op := ∀ rank, op ≠ .redis (.zadd key member rank)
  expected op reply := ¬ shows key member op reply

section Footprint

variable {σ : Type} {key : Key} {member : String}

theorem spares_background (op : Op) (quiet : op.isBackground = true) :
    (spares key member).allowed op := by
  rintro rank rfl
  simp [Op.isBackground, backgroundCommand] at quiet

theorem spares_of_background {α : Type} {task : Proc σ α} (uses : task.Uses background) :
    task.Uses (spares key member) :=
  uses_of_background uses spares_background

theorem spares_entry {due : DueEntry} (differ : due.indexKey = key → due.member ≠ member) :
    EntryPermits (spares key member) due where
  quiet := spares_background
  reads := by rintro key field rank ⟨⟩
  removes := by rintro key member rank ⟨⟩
  renews := by
    rintro own rank same
    simp only [Op.redis.injEq, Redis.Command.zadd.injEq] at same
    exact differ same.1 same.2.1
  cancels := by rintro workerId command rank ⟨⟩
  answers := by rintro agentType reply - rank ⟨⟩

variable {options : SweeperOptions}

theorem resolveEntry_spares {indexKey : Key} {other : String} (score : Int)
    (differ : indexKey = key → other ≠ member) :
    (resolveEntry options indexKey other score : Proc σ _).Uses (spares key member) := by
  unfold resolveEntry
  split
  · exact uses_redis_bind (by rintro rank ⟨⟩) fun _ _ => Task.uses_pure _
  · exact resolveDecoded_entry (spares_entry differ)

theorem resolveEach_spares {indexKey : Key} (due : List (String × Int)) (outcomes : Outcomes)
    (differ : indexKey = key → ∀ entry ∈ due, entry.1 ≠ member) :
    (resolveEach options indexKey due outcomes : Proc σ _).Uses (spares key member) := by
  induction due generalizing outcomes with
  | nil => exact Task.uses_pure _
  | cons entry rest ih =>
      refine Task.uses_bind (Task.uses_tryCatch (resolveEntry_spares _ fun same =>
        differ same entry (by simp)) fun _ => Task.uses_pure _) fun outcome => ?_
      exact ih _ fun same other inRest => differ same other (by simp [inRest])

theorem resolveDueEntries_spares (shard : Nat) :
    (resolveDueEntries options shard : Proc σ _).Uses (spares key member) := by
  refine Task.uses_bind (spares_of_background dateNow_background) fun now => ?_
  refine uses_redis_bind (by rintro rank ⟨⟩) fun due hidden => ?_
  refine resolveEach_spares due [] fun same entry listed shown => hidden ?_
  exact ⟨same, entry, listed, shown⟩

theorem pruneShard_spares (shard : Nat) :
    (pruneShard shard : Proc σ Nat).Uses (spares key member) :=
  Task.uses_bind (spares_of_background dateNow_background) fun _ =>
    uses_redis (by rintro rank ⟨⟩)

theorem sweepShardHeld_spares (shard : Nat) (pruning : Bool) :
    (sweepShardHeld options shard pruning : Proc σ _).Uses (spares key member) := by
  have resolves : ∀ outcomes : Outcomes, (if options.enabled then tryCatch
      (do
        let resolved ← resolveDueEntries options shard
        pure (outcomes.merge resolved))
      fun _ => pure (outcomes.add .error 1)
    else pure outcomes : Proc σ Outcomes).Uses (spares key member) := by
    intro outcomes
    split
    · exact Task.uses_tryCatch (Task.uses_bind (resolveDueEntries_spares shard)
        fun _ => Task.uses_pure _) fun _ => Task.uses_pure _
    · exact Task.uses_pure _
  unfold sweepShardHeld
  dsimp only
  split
  · refine Task.uses_bind (Task.uses_tryCatch ?_ fun _ => Task.uses_pure _) fun removed => ?_
    · rw [map_eq_pure_bind]
      exact Task.uses_bind (pruneShard_spares shard) fun _ => Task.uses_pure _
    · cases removed with
      | none => exact Task.uses_pure _
      | some removed => exact resolves _
  · exact resolves _

theorem sweepShard_spares (shard : Nat) (pruning : Bool) :
    (sweepShard options shard pruning : Proc σ _).Uses (spares key member) := by
  unfold sweepShard
  split
  · exact Task.uses_pure _
  · refine Task.uses_bind (spares_of_background plainId_background) fun token => ?_
    refine Task.uses_bind (Task.uses_tryCatch
      (spares_of_background (acquireScopedLock_background rfl _ _)) fun _ => Task.uses_pure _)
      fun claimed => ?_
    split
    · exact Task.uses_pure _
    · refine Task.uses_bind (sweepShardHeld_spares shard pruning) fun outcomes => ?_
      exact Task.uses_bind (Task.uses_failSoft (Task.uses_bind
        (spares_of_background (releaseScopedLock_background rfl _)) fun _ => Task.uses_pure _))
        fun _ => Task.uses_pure _

theorem sweepShards_spares (pruning : Bool) (shards : List Nat) (outcomes : Outcomes) :
    (sweepShards options pruning shards outcomes : Proc σ _).Uses (spares key member) := by
  induction shards generalizing outcomes with
  | nil => exact Task.uses_pure _
  | cons shard rest ih => exact Task.uses_bind (sweepShard_spares shard pruning) fun _ => ih _

theorem pruneIsDue_background : (pruneIsDue options).Uses background := by
  unfold pruneIsDue
  split
  · exact Task.uses_pure _
  · refine Task.uses_bind dateNow_background fun now => Task.uses_bind Task.uses_get fun memory => ?_
    split
    · exact Task.uses_pure _
    · exact Task.uses_bind (Task.uses_modify fun _ _ => trivial) fun _ => Task.uses_pure _

theorem sweepOnce_spares : (sweepOnce options).Uses (spares key member) := by
  refine Task.uses_bind (spares_of_background pruneIsDue_background) fun pruning => ?_
  refine Task.uses_bind Task.uses_get fun memory => ?_
  refine Task.uses_bind (sweepShards_spares pruning _ []) fun outcomes => ?_
  exact Task.uses_bind (Task.uses_modify fun _ _ => trivial) fun _ => Task.uses_pure _

theorem sweepLoop_spares (passes : Nat) :
    (sweepLoop options passes).Uses (spares key member) := by
  induction passes with
  | zero => exact Task.uses_pure _
  | succ passes ih =>
      exact Task.uses_bind (Task.uses_failSoft (Task.uses_bind sweepOnce_spares
        fun _ => Task.uses_pure _)) fun _ => ih

end Footprint

/-! ### Sweeps beside claims and registrations -/

def addsNothing : Contract effects := .only fun op => ∀ key member rank,
  op ≠ .redis (.zadd key member rank)

theorem tryCandidates_addsNothing {σ : Type} (sessionId : String) (candidates : List String) :
    (tryCandidates sessionId candidates : Proc σ _).Uses addsNothing := by
  induction candidates with
  | nil => exact Task.uses_pure _
  | cons member rest ih =>
      refine uses_redis_bind (by rintro key member rank ⟨⟩) fun removed _ => ?_
      split
      · refine Task.uses_bind (Task.uses_failSoft (uses_redis_bind (by rintro key member rank ⟨⟩)
          fun _ _ => Task.uses_pure _)) fun _ => Task.uses_pure _
      · refine uses_redis_bind (by rintro key member rank ⟨⟩) fun consumed _ => ?_
        split
        · exact Task.uses_pure _
        · exact ih

theorem consumeWaitEntry_addsNothing {σ : Type} (header : MessageHeader) :
    (consumeWaitEntry header : Proc σ _).Uses addsNothing :=
  Task.uses_tryCatch (tryCandidates_addsNothing _ _) fun _ => Task.uses_pure _

inductive WaitPart where
  | sweep (options : SweeperOptions) (memory : SweeperMemory) (passes : Nat)
  | claim (header : MessageHeader)
  | register (params : RegisterWaitParams)

namespace WaitPart

def program : WaitPart → Prog effects Unit
  | .sweep options memory passes => do
      let _ ← Task.start (sweepLoop options passes) memory
      .done ()
  | .claim header => do
      let _ ← Task.start (consumeWaitEntry header : Proc Unit _) ()
      .done ()
  | .register params => do
      let _ ← Task.start (registerWait params : Proc Unit _) ()
      .done ()

def isSweep : WaitPart → Bool
  | .sweep _ _ _ => true
  | _ => false

def isClaim : WaitPart → Bool
  | .claim _ => true
  | _ => false

def isRegistration : WaitPart → Bool
  | .register _ => true
  | _ => false

end WaitPart

abbrev WaitConfig (ι : Type) := Config effects RedisStore ι Unit

def waitParts {ι : Type} (store : RedisStore) (parts : ι → WaitPart) : WaitConfig ι :=
  ⟨store, fun index => some (parts index).program⟩

/-- Processes may die between two commands, and keys with a time to live may lapse. -/
def waitWorld (ι : Type) : World effects RedisStore ι Unit where
  serve := redisServe
  start _ _ _ _ := False
  stop before _ _ after := after = before
  lapse before after := ∃ now, after = before.advance now

section Claims

variable {ι : Type} [DecidableEq ι] {parts : ι → WaitPart} {key : Key} {member : String}

def claimedAfter (parts : ι → WaitPart) (key : Key) (member : String) :
    Bool → Event effects ι → Bool
  | claimed, .issue index (.redis (.zrem removed query)) (.ok count) =>
      if (parts index).isClaim = true ∧ removed = key ∧ query = member ∧ 0 < count then true
      else claimed
  | claimed, .issue index (.redis (.zadd added query _)) _ =>
      if (parts index).isRegistration = true ∧ added = key ∧ query = member then false
      else claimed
  | claimed, _ => claimed

/-- Whether a gate claim has removed the member and no registration followed. -/
def claimed (parts : ι → WaitPart) (key : Key) (member : String)
    (events : List (Event effects ι)) : Bool :=
  events.foldl (claimedAfter parts key member) false

/-- A member is only claimed while no sweep that has read it as due may still renew it. -/
def ClaimsSpared (parts : ι → WaitPart) (config : WaitConfig ι) : Event effects ι → Prop
  | .issue index (.redis (.zrem key member)) _ => (parts index).isClaim = true →
      (config.state.score key member).isSome = true → ∀ other program,
        (parts other).isSweep = true → config.task other = some program →
          program.Uses (spares key member)
  | _ => True

structure ClaimsKept (parts : ι → WaitPart) (events : List (Event effects ι))
    (config : WaitConfig ι) : Prop where
  absent : ∀ key member, claimed parts key member events = true →
    config.state.score key member = none
  spared : ∀ key member, claimed parts key member events = true → ∀ index program,
    (parts index).isSweep = true → config.task index = some program →
      program.Uses (spares key member)
  claims : ∀ index program, (parts index).isClaim = true → config.task index = some program →
    program.Uses addsNothing

omit [DecidableEq ι] in
theorem claimedAfter_cases {before : Bool} {event : Event effects ι}
    (now : claimedAfter parts key member before event = true) :
    (∃ index count, event = .issue index (.redis (.zrem key member)) (.ok count) ∧
      (parts index).isClaim = true ∧ 0 < count) ∨
    (before = true ∧ ∀ index rank reply,
      event = .issue index (.redis (.zadd key member rank)) reply →
        (parts index).isRegistration = false) := by
  unfold claimedAfter at now
  split at now
  · split at now
    · rename_i index removed query count match_
      obtain ⟨isClaim, rfl, rfl, positive⟩ := match_
      exact Or.inl ⟨_, _, rfl, isClaim, positive⟩
    · exact Or.inr ⟨now, by rintro _ _ _ ⟨⟩⟩
  · split at now
    · simp at now
    · rename_i index added query rank reply differ
      refine Or.inr ⟨now, ?_⟩
      rintro other score answer ⟨⟩
      simpa using differ
  · rename_i other
    refine Or.inr ⟨now, ?_⟩
    rintro index rank reply rfl
    exact absurd rfl (other _ _ _ _ _)

omit [DecidableEq ι] in
theorem part_cases (part : WaitPart) :
    part.isSweep = true ∨ part.isClaim = true ∨ part.isRegistration = true := by
  cases part <;> simp [WaitPart.isSweep, WaitPart.isClaim, WaitPart.isRegistration]

theorem not_shows_of_absent {store after : RedisStore} {op : Op} {reply : op.Reply}
    (absent : store.score key member = none) (served : redisServe store op reply after) :
    ¬ shows key member op reply := by
  intro shown
  unfold shows at shown
  split at shown
  · rename_i read low high limit due
    obtain ⟨rfl, entry, listed, rfl⟩ := shown
    simp only [redisServe, Redis.Store.exec, Prod.mk.injEq, Except.ok.injEq] at served
    rw [← served.1] at listed
    exact Redis.Store.mem_zrangebyscore listed absent
  · exact shown

theorem score_served_absent {store after : RedisStore} {op : Op} {reply : op.Reply}
    (absent : store.score key member = none) (served : redisServe store op reply after)
    (other : ∀ rank, op ≠ .redis (.zadd key member rank)) :
    after.score key member = none := by
  cases op with
  | redis command =>
      obtain rfl : (store.exec command).2 = after := congrArg Prod.snd served
      exact Redis.Store.score_exec_absent absent fun rank same => other rank (by rw [same])
  | _ => exact served ▸ absent

theorem uses_after {config : WaitConfig ι} {index other : ι} {op : Op}
    {resume : op.Reply → Prog effects Unit} {reply : op.Reply} {program : Prog effects Unit}
    {contract : Contract effects} (found : config.task index = some (.call op resume))
    (running : Function.update config.task index (some (resume reply)) other = some program)
    (expected : contract.expected op reply)
    (uses : ∀ before, config.task other = some before → before.Uses contract) :
    program.Uses contract := by
  by_cases same : other = index
  · subst same
    simp only [Function.update_self, Option.some.injEq] at running
    subst running
    exact (uses _ found).2 reply expected
  · exact uses program (by simpa [same] using running)

theorem ClaimsKept.issue {events : List (Event effects ι)} {config : WaitConfig ι} {index : ι}
    {op : Op} {resume : op.Reply → Prog effects Unit} {reply : op.Reply} {after : RedisStore}
    (kept : ClaimsKept parts events config)
    (found : config.task index = some (.call op resume))
    (served : redisServe config.state op reply after)
    (permitted : ClaimsSpared parts config (.issue index op reply)) :
    ClaimsKept parts (events ++ [.issue index op reply])
      ⟨after, Function.update config.task index (some (resume reply))⟩ := by
  have step : ∀ key member, claimed parts key member (events ++ [.issue index op reply]) = true →
      after.score key member = none ∧ ∀ other program, (parts other).isSweep = true →
        Function.update config.task index (some (resume reply)) other = some program →
          program.Uses (spares key member) := by
    intro key member now
    simp only [claimed, List.foldl_append, List.foldl_cons, List.foldl_nil] at now
    rcases claimedAfter_cases now with ⟨claimer, count, same, isClaim, positive⟩ | ⟨before, adds⟩
    · obtain ⟨rfl, rfl, rfl⟩ : index = claimer ∧ op = .redis (.zrem key member) ∧
          HEq reply (Except.ok count : Except String Nat) := by
        cases same
        exact ⟨rfl, rfl, HEq.rfl⟩
      obtain rfl : (config.state.exec (.zrem key member)).2 = after := congrArg Prod.snd served
      have present : (config.state.score key member).isSome = true := by
        have answered := congrArg Prod.fst served
        rw [Redis.Store.exec_zrem_reply] at answered
        by_contra absent
        have zero : count = 0 := by simpa [absent] using answered.symm
        exact absurd zero (Nat.ne_of_gt positive)
      refine ⟨by rw [Redis.Store.score_zrem]; simp, fun other program isSweep running => ?_⟩
      have differ : other ≠ index := by
        rintro rfl
        cases part : parts other <;> simp [part, WaitPart.isSweep, WaitPart.isClaim] at *
      rw [Function.update_of_ne differ] at running
      exact permitted isClaim present other program isSweep running
    · have gone := kept.absent key member before
      have spared := kept.spared key member before
      have other : ∀ rank, op ≠ .redis (.zadd key member rank) := by
        rintro rank rfl
        rcases part_cases (parts index) with isSweep | isClaim | isRegistration
        · exact (spared index _ isSweep found).1 rank rfl
        · exact (kept.claims index _ isClaim found).1 key member rank rfl
        · simp [adds index rank reply rfl] at isRegistration
      refine ⟨score_served_absent gone served other, fun other program isSweep running => ?_⟩
      exact uses_after found running (not_shows_of_absent gone served)
        fun before => spared other before isSweep
  refine ⟨fun key member now => (step key member now).1,
    fun key member now => (step key member now).2, fun other program isClaim running => ?_⟩
  exact uses_after found running trivial fun before => kept.claims other before isClaim

omit [DecidableEq ι] in
@[simp] theorem claimed_stop (events : List (Event effects ι)) (index : ι) :
    claimed parts key member (events ++ [.stop index]) = claimed parts key member events := by
  simp [claimed, claimedAfter]

omit [DecidableEq ι] in
@[simp] theorem claimed_lapse (events : List (Event effects ι)) :
    claimed parts key member (events ++ [.lapse]) = claimed parts key member events := by
  simp [claimed, claimedAfter]

theorem ClaimsKept.step {events : List (Event effects ι)} {before after : WaitConfig ι}
    {event : Event effects ι} (kept : ClaimsKept parts events before)
    (permitted : ClaimsSpared parts before event) (step : Step (waitWorld ι) before event after) :
    ClaimsKept parts (events ++ [event]) after := by
  cases step with
  | issue found served => exact kept.issue found served permitted
  | start _ started => exact started.elim
  | @stop index program store found stopped =>
      obtain rfl : store = before.state := stopped
      have earlier : ∀ other program, Function.update before.task index none other = some program →
          before.task other = some program := by
        intro other program running
        by_cases same : other = index
        · subst same
          simp at running
        · simpa [same] using running
      refine ⟨fun key member now => ?_, fun key member now other program isSweep running => ?_,
        fun other program isClaim running => ?_⟩
      · exact kept.absent key member (by simpa using now)
      · exact kept.spared key member (by simpa using now) other program isSweep
          (earlier other program running)
      · exact kept.claims other program isClaim (earlier other program running)
  | @lapse store lapsed =>
      obtain ⟨now, rfl⟩ := lapsed
      refine ⟨fun key member claims => ?_, fun key member claims => ?_, kept.claims⟩
      · exact Redis.Store.score_advance_absent now
          (kept.absent key member (by simpa using claims))
      · exact kept.spared key member (by simpa using claims)

omit [DecidableEq ι] in
theorem ClaimsKept.initial (store : RedisStore) (parts : ι → WaitPart) :
    ClaimsKept parts [] (waitParts store parts) where
  absent _ _ none := by simp [claimed] at none
  spared _ _ none := by simp [claimed] at none
  claims index program isClaim running := by
    simp only [waitParts, Option.some.injEq] at running
    subst running
    cases part : parts index with
    | claim header =>
        exact (consumeWaitEntry_addsNothing header () trivial).bind fun _ _ => trivial
    | sweep options memory passes => simp [part, WaitPart.isClaim] at isClaim
    | register params => simp [part, WaitPart.isClaim] at isClaim

end Claims

/-- A claimed member stays out of the index, and is claimed once for each registration. -/
theorem sweep_never_resurrects {ι : Type} [DecidableEq ι] (store : RedisStore)
    (parts : ι → WaitPart) (events : List (Event effects ι)) (last : WaitConfig ι)
    (runs : Runs (waitWorld ι) (ClaimsSpared parts) (waitParts store parts) events last)
    (key : Key) (member : String) (taken : claimed parts key member events = true) :
    last.state.score key member = none ∧
      ∀ index count after, Step (waitWorld ι) last
        (.issue index (.redis (.zrem key member)) (.ok count)) after → count = 0 := by
  have kept : ClaimsKept parts events last := runs.invariant (ClaimsKept parts)
    (ClaimsKept.initial store parts) fun _ _ _ _ kept permitted step => kept.step permitted step
  have absent := kept.absent key member taken
  refine ⟨absent, fun index count after step => ?_⟩
  cases step with
  | issue found served =>
      have answered := congrArg Prod.fst served
      rw [Redis.Store.exec_zrem_reply, absent] at answered
      simpa using answered.symm

/-! ### A claim between a sweep's read and its renewal -/

def lateHeader : MessageHeader :=
  { messageId := "msg-caller"
    sessionId := "session"
    traceId := "trace"
    sourceAgentType := "callee"
    targetAgentType := "caller"
    parentMessageId := "msg-child" }

def lateKey : Key := waitIndexKey "session"

def lateMember : String := memberFromResume lateHeader

def lateOptions : SweeperOptions :=
  { workerId := "sweeper"
    enabled := true
    pruneEnabled := false
    searchFuel := 0 }

def lateCaller : ExecutionRecord :=
  { executionId := "exec-caller"
    messageId := "msg-caller"
    sessionId := "session"
    traceId := "trace"
    targetAgentType := "caller"
    status := AgentState.waitingAgent }

def lateChild : ExecutionRecord :=
  { executionId := "exec-child"
    messageId := "msg-child"
    parentMessageId := "msg-caller"
    sessionId := "session"
    traceId := "trace"
    sourceAgentType := "caller"
    targetAgentType := "callee"
    workerId := "worker"
    status := statusRunning }

def lateStore : RedisStore :=
  let records := (Redis.Store.empty.exec (.hset (.sessionRegistry "session")
    [(execField "exec-caller", .execution lateCaller), (msgMapField "msg-caller", .text "exec-caller"),
      (execField "exec-child", .execution lateChild),
      (msgMapField "msg-child", .text "exec-child")])).2
  { (records.exec (.zadd lateKey lateMember 1000)).2 with clock := 5000 }

/-- One sweep, the claim of the real reply, and the claim of the stand-in. -/
def lateParts : Fin 3 → WaitPart
  | 0 => .sweep lateOptions ⟨waitIndexShard "session", none⟩ 1
  | _ => .claim lateHeader

def lateSchedule : List (Fin 3) := [0, 0, 0, 0, 0, 0, 0, 0, 0, 0, 0, 1, 1, 0, 0]

def lateRun : WaitConfig (Fin 3) :=
  runSchedule redisAnswer (waitParts lateStore lateParts) lateSchedule

def lateEvents : List (Event effects (Fin 3)) :=
  scheduleEvents redisAnswer (waitParts lateStore lateParts) lateSchedule

/-- Then the stand-in is claimed as well. -/
def secondClaim : WaitConfig (Fin 3) := runSchedule redisAnswer lateRun [2]

theorem late_claim_resurrects :
    Runs (waitWorld _) (fun _ _ => True) (waitParts lateStore lateParts) lateEvents lateRun ∧
      claimed lateParts lateKey lateMember lateEvents = true ∧
      (lateRun.state.score lateKey lateMember).isSome = true ∧
      Reaches (waitWorld _) (fun _ _ => True) lateRun secondClaim ∧
      (secondClaim.state.score lateKey lateMember).isSome = false := by
  have first : scheduleOk redisAnswer (fun _ _ => true) (waitParts lateStore lateParts)
      lateSchedule = true := by
    decide +kernel
  have second : scheduleOk redisAnswer (fun _ _ => true) lateRun [2] = true := by
    decide +kernel
  refine ⟨(runSchedule_runs (waitWorld (Fin 3)) redisAnswer redisAnswer_serves (fun _ _ => true)
    _ _ first).mono fun _ _ _ => trivial, by decide +kernel, by decide +kernel,
    (runSchedule_reaches (waitWorld (Fin 3)) redisAnswer redisAnswer_serves (fun _ _ => true)
      _ _ second).mono fun _ _ _ => trivial, by decide +kernel⟩

theorem ClaimsSpared.initial {ι : Type} (store : RedisStore) (parts : ι → WaitPart)
    (event : Event effects ι) : ClaimsSpared parts (waitParts store parts) event := by
  unfold ClaimsSpared
  split
  · rename_i index key member reply
    intro isClaim present other program isSweep running
    simp only [waitParts, Option.some.injEq] at running
    subst running
    cases part : parts other with
    | sweep options memory passes =>
        exact (sweepLoop_spares passes memory trivial).bind fun _ _ => trivial
    | claim header => simp [part, WaitPart.isSweep] at isSweep
    | register params => simp [part, WaitPart.isSweep] at isSweep
  · trivial

def claimsNothing {ι : Type} (parts : ι → WaitPart) : Event effects ι → Bool
  | .issue index (.redis (.zrem _ _)) _ => !(parts index).isClaim
  | _ => true

theorem ClaimsSpared.of_claimsNothing {ι : Type} {parts : ι → WaitPart} {config : WaitConfig ι}
    {event : Event effects ι} (quiet : claimsNothing parts event = true) :
    ClaimsSpared parts config event := by
  unfold ClaimsSpared
  split
  · intro isClaim
    simp [claimsNothing, isClaim] at quiet
  · trivial

def earlyStart : WaitConfig (Fin 3) := runSchedule redisAnswer (waitParts lateStore lateParts) [1]

def earlySchedule : List (Fin 3) := [1, 0, 0, 0, 0, 0, 0]

def earlyEvents : List (Event effects (Fin 3)) :=
  scheduleEvents redisAnswer (waitParts lateStore lateParts) [1] ++
    scheduleEvents redisAnswer earlyStart earlySchedule

def earlyRun : WaitConfig (Fin 3) := runSchedule redisAnswer earlyStart earlySchedule

theorem earlyRun_runs : Runs (waitWorld _) (ClaimsSpared lateParts)
    (waitParts lateStore lateParts) earlyEvents earlyRun := by
  have permitted : scheduleOk redisAnswer (fun _ => claimsNothing lateParts) earlyStart
      earlySchedule = true := by
    decide +kernel
  refine (runSchedule_move (waitWorld (Fin 3)) redisAnswer redisAnswer_serves _ 1
    (ClaimsSpared.initial lateStore lateParts)).append ?_
  exact (runSchedule_runs (waitWorld (Fin 3)) redisAnswer redisAnswer_serves
    (fun _ => claimsNothing lateParts) _ _ permitted).mono
    fun _ _ => ClaimsSpared.of_claimsNothing

theorem early_claim_stays :
    claimed lateParts lateKey lateMember earlyEvents = true ∧
      earlyRun.state.score lateKey lateMember = none := by
  have taken : claimed lateParts lateKey lateMember earlyEvents = true := by decide +kernel
  exact ⟨taken, (sweep_never_resurrects lateStore lateParts earlyEvents earlyRun earlyRun_runs
    lateKey lateMember taken).1⟩

end ByFramework
