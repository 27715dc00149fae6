import ByFramework.SweepTriage

/-!
How long a wait is renewed for a child that goes on running: the first deadline, remembered beside
the index, fixes the instant from which the next triage gives the child up.
-/

namespace ByFramework

open Async

def originKey (due : DueEntry) : Key :=
  .waitRenewOrigin due.entry.sessionId (memberDigest due.member)

/-- The instant past which a wait registered for `deadline` is not renewed for a child that was
created at `created`. -/
def ceilingOf (options : SweeperOptions) (deadline created : Int) : Int :=
  let usable := if created ≤ 0 ∨ deadline - created ≤ 0 then defaultReplyTimeoutMs
    else deadline - created
  deadline + max (usable * (options.renewMaxMultiple - 1)) waitRenewIncrementMs

/-- The caller is suspended and can be reached, and its child runs on a worker that is online. -/
structure RunsOn (due : DueEntry) (created : Int) (store : RedisStore) (caller : ExecutionRecord)
    (child : ExecutionRecord) : Prop where
  called : recordOf store due.entry.parentMessageId due.entry.sessionId = .ok (some caller)
  suspended : isSuspendedState (baseStatus caller.status) = true
  routed : orElseText child.sourceAgentType caller.targetAgentType ≠ ""
  named : due.entry.childMessageId ≠ ""
  group : due.entry.taskGroupId = "" ∨ GroupWaits store due.entry
  asked : recordOf store due.entry.childMessageId due.entry.sessionId = .ok (some child)
  unfinished : isTerminalState (baseStatus child.status) = false
  running : isSuspendedState (baseStatus child.status) = false
  claimed : child.workerId ≠ ""
  online : onlineIn store child.workerId = true
  since : child.createdAt = created

/-- What is remembered of the first deadline: the score itself until the first renewal. -/
inductive Remembers (due : DueEntry) (deadline : Int) (store : RedisStore) : Prop where
  | unrenewed (fresh : store.holds (originKey due) = false)
      (listed : store.score due.indexKey due.member = some deadline)
  | renewed (held : store.text (originKey due) = some (.number deadline))

def Marked (due : DueEntry) (before after : RedisStore) : Prop :=
  after.text (originKey due) = if before.holds (originKey due) = true then
    before.text (originKey due) else some (.number due.deadlineMs)

section

variable {σ : Type} {memory : σ} {store : RedisStore} {options : SweeperOptions} {due : DueEntry}
  {deadline created : Int} {caller child : ExecutionRecord}

theorem holds_of_text {key : Key} {value : Value} (held : store.text key = some value) :
    store.holds key = true := by
  simp [Redis.Store.holds, held]

theorem wp_markOrigin :
    (do
      let _ ← redis (.set (originKey due) (.number due.deadlineMs) true
        (some waitRenewOriginTtlSeconds)) : Proc σ PUnit).wp (Setting.alone clockServe)
      (fun _ _ after => Hushed store after ∧ Marked due store after) memory store := by
  have hushed : Hushed store (store.exec (.set (originKey due) (.number due.deadlineMs) true
      (some waitRenewOriginTtlSeconds))).2 :=
    hushed_background store rfl
  refine Task.wp_alone_bind (wp_redis_clock ?_)
  have marked : Marked due store (store.exec (.set (originKey due) (.number due.deadlineMs) true
      (some waitRenewOriginTtlSeconds))).2 := by
    unfold Marked Redis.Store.exec
    by_cases held : store.holds (originKey due) = true
    · simp [held]
    · simp [held]
  cases (store.exec (.set (originKey due) (.number due.deadlineMs) true
      (some waitRenewOriginTtlSeconds))).1 with
  | ok value => exact Task.wp_alone_pure ⟨hushed, marked⟩
  | error error => exact ⟨hushed, marked⟩

theorem wp_extendDeadline_origin (kind : due.indexKey.isBackground = false) :
    (extendDeadline due : Proc σ PUnit).wp (Setting.alone clockServe)
      (fun outcome _ after => outcome = .ok ⟨⟩ ∧ Renewed due store after ∧ Silent store after ∧
        Marked due store after) memory store := by
  refine Task.wp_alone_bind (Task.wp_failSoft (Task.wp_mono wp_markOrigin ?_) trivial)
  rintro _ _ marked - ⟨hushed, origin⟩ _ rfl -
  refine Task.wp_alone_bind (wp_dateNow_clock ?_)
  refine Task.wp_alone_bind (wp_redis_clock (Task.wp_alone_pure ⟨rfl, ?_, hushed.silent, origin⟩))
  simp only [Renewed, Redis.Store.exec, Function.update_self, hushed.waits _ kind, hushed.clock]

theorem ceilingIn_eq (remembers : Remembers due deadline store) (nonzero : deadline ≠ 0)
    (score : store.score due.indexKey due.member = some due.deadlineMs)
    (since : child.createdAt = created) :
    ceilingIn options due child store = ceilingOf options deadline created := by
  have origin : (if asInt (store.text (originKey due)) = 0 then due.deadlineMs
      else asInt (store.text (originKey due))) = deadline := by
    cases remembers with
    | unrenewed fresh listed =>
        rw [listed] at score
        cases score
        have unmarked : store.text (originKey due) = none := by
          cases held : store.text (originKey due) with
          | none => rfl
          | some value =>
              rw [holds_of_text held] at fresh
              cases fresh
        rw [unmarked]
        rfl
    | renewed held =>
        rw [held]
        exact if_neg nonzero
  unfold originKey at origin
  unfold ceilingIn ceilingOf
  dsimp only
  rw [origin, since]

/-- The caller is told that its child gave no answer in time. -/
def Forsaken (due : DueEntry) (before after : RedisStore) : Prop :=
  ∃ reply : ResumeCommand, reply.header.answers = due.entry ∧ reply.status = AgentState.failed ∧
    (∃ message, reply.replyData =
      failureReplyData message LivenessErrorCode.childTimeout due.entry.childMessageId) ∧
    repliesIn after (.ctrlStream reply.header.targetAgentType) =
      repliesIn before (.ctrlStream reply.header.targetAgentType) ++ [reply]

theorem wp_giveUp {message : String} (kind : due.indexKey.isBackground = false)
    (routed : orElseText child.sourceAgentType caller.targetAgentType ≠ "") :
    (synthesizeFailure options due caller (some child) LivenessErrorCode.childTimeout message ""
      .timedOut : Proc σ _).wp (Setting.alone clockServe)
      (fun outcome _ after => outcome = .ok .timedOut ∧ Forsaken due store after) memory store := by
  unfold synthesizeFailure emitReply
  dsimp only [Option.map_some, Option.getD_some]
  rw [if_neg routed]
  refine Task.wp_alone_bind (Task.wp_alone_bind ?_)
  have named : orElseText "" AgentState.failed ≠ "" := by decide
  refine wp_standInReply named fun traceId reply header status replyData => ?_
  have target : reply.header.targetAgentType =
      orElseText child.sourceAgentType caller.targetAgentType := by
    rw [header]
    rfl
  have answers : reply.header.answers = due.entry := by
    rw [header]
    rfl
  dsimp only
  refine Task.wp_alone_bind (wp_redis_clock ?_)
  refine Task.wp_alone_bind (Task.wp_mono (wp_extendDeadline kind) ?_)
  rintro _ memory after - ⟨rfl, _, silent⟩
  refine Task.wp_alone_pure (Task.wp_alone_pure ⟨rfl, reply, answers, status,
    ⟨message, replyData⟩, ?_⟩)
  rw [silent _ rfl, target]
  unfold repliesIn Redis.Store.exec
  dsimp only
  rw [Function.update_self, List.filterMap_append]
  rfl

def TriagedRunning (options : SweeperOptions) (due : DueEntry) (child : ExecutionRecord)
    (before : RedisStore) (outcome : Except JsError SweepOutcome) (after : RedisStore) : Prop :=
  if before.clock < ceilingIn options due child before then
    outcome = .ok .childAlive ∧ Renewed due before after ∧ Silent before after ∧
      Marked due before after
  else outcome = .ok .timedOut ∧ Forsaken due before after

attribute [local irreducible] Task.wp in
theorem wp_triageChild_running (kind : due.indexKey.isBackground = false)
    (runs : RunsOn due created store caller child) :
    (triageChild options due caller : Proc σ _).wp (Setting.alone clockServe)
      (fun outcome _ after => TriagedRunning options due child store outcome after) memory
      store := by
  refine Task.wp_alone_bind (wp_recordOf ?_)
  rw [runs.asked]
  dsimp only
  rw [runs.unfinished, runs.running, if_neg (by decide), if_neg (by decide), if_neg runs.claimed]
  refine Task.wp_alone_bind (wp_onlineIn ?_)
  rw [runs.online]
  dsimp only
  rw [if_pos rfl]
  refine Task.wp_alone_bind (wp_ceilingIn ?_)
  refine Task.wp_alone_bind (wp_dateNow_clock ?_)
  dsimp only
  unfold TriagedRunning
  split
  · refine Task.wp_alone_bind (Task.wp_mono (wp_extendDeadline_origin kind) ?_)
    rintro _ memory after - ⟨rfl, renewed, silent, origin⟩
    exact Task.wp_alone_pure ⟨rfl, renewed, silent, origin⟩
  · refine Task.wp_alone_bind (Task.wp_mono (wp_giveUp kind runs.routed) ?_)
    rintro _ memory after - ⟨rfl, reply, answers, status, data, told⟩
    refine Task.wp_alone_bind (wp_cancelTimedOutChild fun _ memory last hushed => ?_)
    refine Task.wp_alone_pure ⟨rfl, reply, answers, status, data, ?_⟩
    rw [hushed.replies _ rfl, told]

theorem wp_groupBlocksCompensation_waits
    {post : Except JsError (Option SweepOutcome) → σ → RedisStore → Prop}
    (waits : GroupWaits store due.entry) (holds : post (.ok none) memory store) :
    (groupBlocksCompensation due : Proc σ _).wp (Setting.alone clockServe) post memory store := by
  refine Task.wp_alone_bind (wp_redis_clock ?_)
  have total : Option.isNone (store.field (.taskGroup due.entry.taskGroupId)
      taskGroupFieldTotal) = false := by
    rw [← Option.not_isSome, waits.1]
    rfl
  dsimp only [Redis.Store.exec, Except.mapError]
  unfold Redis.Store.field at total
  rw [total, if_neg (by decide)]
  refine Task.wp_alone_bind (wp_redis_clock ?_)
  have aborted := waits.2.1
  dsimp only [Redis.Store.exec, Except.mapError]
  unfold Redis.Store.field at aborted
  rw [aborted, if_neg (by decide)]
  refine Task.wp_alone_bind (wp_redis_clock ?_)
  have recorded := waits.2.2
  dsimp only [Redis.Store.exec, Except.mapError]
  unfold Redis.Store.field at recorded
  rw [recorded, if_neg (by decide)]
  exact Task.wp_alone_pure holds

attribute [local irreducible] Task.wp in
theorem wp_resolveDecoded_running (kind : due.indexKey.isBackground = false)
    (runs : RunsOn due created store caller child) :
    (resolveDecoded options due : Proc σ _).wp (Setting.alone clockServe)
      (fun outcome _ after => TriagedRunning options due child store outcome after) memory
      store := by
  have unfinished := unfinished_of_suspended runs.suspended
  refine Task.wp_alone_bind (wp_recordOf ?_)
  rw [runs.called]
  dsimp only
  rw [unfinished, runs.suspended, if_neg (by decide), if_neg (by decide), if_neg runs.named]
  split
  · exact Task.wp_alone_bind (Task.wp_alone_pure (wp_triageChild_running kind runs))
  · rename_i grouped
    have waits := runs.group.resolve_left grouped
    exact Task.wp_alone_bind (wp_groupBlocksCompensation_waits waits
      (wp_triageChild_running kind runs))

end

/-! ### The waiting -/

def entryAt (shard : Nat) (member : String) (wait : WaitIndexMember) (score : Int) : DueEntry :=
  ⟨.waitIndex shard, member, score, wait⟩

/-- Time passes, and neither the entry nor what is remembered of it changes. -/
structure Elapses (due : DueEntry) (before after : RedisStore) : Prop where
  clock : before.clock ≤ after.clock
  score : after.score due.indexKey due.member = before.score due.indexKey due.member
  text : after.text (originKey due) = before.text (originKey due)
  holds : after.holds (originKey due) = before.holds (originKey due)

/-- The renewals of a wait whose child runs each time the entry is due, the last of them first. -/
inductive Renewals (options : SweeperOptions) (shard : Nat) (member : String)
    (wait : WaitIndexMember) (created : Int) : RedisStore → List Int → RedisStore → Prop where
  | start {store : RedisStore} : Renewals options shard member wait created store [] store
  | pass {first before after : RedisStore} {instants : List Int}
      (earlier : Renewals options shard member wait created first instants before)
      (elapses : Elapses (entryAt shard member wait 0) before after) :
      Renewals options shard member wait created first instants after
  | renew {first before after : RedisStore} {instants : List Int} {score : Int}
      {caller child : ExecutionRecord} {outcome : Except JsError SweepOutcome × Unit}
      (earlier : Renewals options shard member wait created first instants before)
      (listed : before.score (.waitIndex shard) member = some score)
      (due : score ≤ before.clock)
      (runs : RunsOn (entryAt shard member wait score) created before caller child)
      (ends : Prog.Ends clockServe ((resolveEntry options (.waitIndex shard) member score :
        Proc Unit _).start ()) before outcome after)
      (renewed : outcome.1 = .ok .childAlive) :
      Renewals options shard member wait created first (before.clock :: instants) after

section

variable {options : SweeperOptions} {shard : Nat} {member : String} {wait : WaitIndexMember}
  {created deadline : Int}

theorem triaged_of_ends (decoded : decodeMember member = .ok wait) {score : Int}
    {before after : RedisStore} {caller child : ExecutionRecord}
    {outcome : Except JsError SweepOutcome × Unit}
    (runs : RunsOn (entryAt shard member wait score) created before caller child)
    (ends : Prog.Ends clockServe ((resolveEntry options (.waitIndex shard) member score :
      Proc Unit _).start ()) before outcome after) :
    TriagedRunning options (entryAt shard member wait score) child before outcome.1 after := by
  have triages : (resolveEntry options (.waitIndex shard) member score : Proc Unit _).wp
      (Setting.alone clockServe) (fun outcome _ after => TriagedRunning options
        (entryAt shard member wait score) child before outcome after) () before := by
    unfold resolveEntry
    rw [decoded]
    exact wp_resolveDecoded_running rfl runs
  exact Task.wp_ends ends triages

structure OpenWait (options : SweeperOptions) (shard : Nat) (member : String)
    (wait : WaitIndexMember) (created deadline : Int) (instants : List Int) (store : RedisStore) :
    Prop where
  remembers : Remembers (entryAt shard member wait 0) deadline store
  early : ∀ instant ∈ instants, instant < ceilingOf options deadline created
  listed : ∃ score, store.score (.waitIndex shard) member = some score ∧
    score < ceilingOf options deadline created + waitRenewIncrementMs

theorem deadline_lt_ceiling :
    deadline < ceilingOf options deadline created + waitRenewIncrementMs := by
  have positive : 0 < waitRenewIncrementMs := by decide
  unfold ceilingOf
  dsimp only
  omega

theorem Remembers.at {score other : Int} {store : RedisStore}
    (remembers : Remembers (entryAt shard member wait score) deadline store) :
    Remembers (entryAt shard member wait other) deadline store := by
  cases remembers with
  | unrenewed fresh listed => exact .unrenewed fresh listed
  | renewed held => exact .renewed held

theorem Marked.remembers {score : Int} {before after : RedisStore}
    (marked : Marked (entryAt shard member wait score) before after)
    (remembers : Remembers (entryAt shard member wait score) deadline before)
    (stands : before.score (.waitIndex shard) member = some score) :
    Remembers (entryAt shard member wait score) deadline after := by
  unfold Marked at marked
  refine .renewed ?_
  cases remembers with
  | unrenewed fresh listed =>
      have same := stands.symm.trans listed
      cases same
      rw [marked, fresh]
      rfl
  | renewed held =>
      rw [marked, holds_of_text held, held]
      rfl

theorem Renewals.openWait {first last : RedisStore} {instants : List Int}
    (decoded : decodeMember member = .ok wait) (nonzero : deadline ≠ 0)
    (fresh : first.holds (originKey (entryAt shard member wait 0)) = false)
    (listed : first.score (.waitIndex shard) member = some deadline)
    (renewals : Renewals options shard member wait created first instants last) :
    OpenWait options shard member wait created deadline instants last := by
  induction renewals with
  | start => exact ⟨.unrenewed fresh listed, by simp, deadline, listed, deadline_lt_ceiling⟩
  | pass _ elapses ih =>
      obtain ⟨remembers, early, score, stands, below⟩ := ih
      refine ⟨?_, early, score, elapses.score.trans stands, below⟩
      cases remembers with
      | unrenewed fresh listed =>
          exact .unrenewed (elapses.holds.trans fresh) (elapses.score.trans listed)
      | renewed held => exact .renewed (elapses.text.trans held)
  | @renew before after instants score caller child outcome _ stands due runs ends alive ih =>
      obtain ⟨remembers, early, _⟩ := ih
      have counted : Remembers (entryAt shard member wait score) deadline before := remembers.at
      have same := @ceilingIn_eq _ options _ _ created child counted nonzero stands runs.since
      have triaged := triaged_of_ends decoded runs ends
      unfold TriagedRunning at triaged
      rw [same, alive] at triaged
      split at triaged
      · rename_i below
        obtain ⟨_, renewed, _, marked⟩ := triaged
        refine ⟨(marked.remembers counted stands).at, ?_, _, renewed.score, by omega⟩
        · intro instant within
          rcases List.mem_cons.mp within with rfl | before
          · exact below
          · exact early instant before
      · cases triaged.1

/-- A wait on a running child is renewed up to the ceiling that its first deadline and the child's
creation fix, however often it was renewed before; the entry is due within one increment after that
ceiling, and the triage that finds it past the ceiling answers the caller instead. -/
theorem renewals_bounded {first last after : RedisStore} {instants : List Int} {score : Int}
    {caller child : ExecutionRecord} {outcome : Except JsError SweepOutcome × Unit}
    (decoded : decodeMember member = .ok wait) (nonzero : deadline ≠ 0)
    (fresh : first.holds (originKey (entryAt shard member wait 0)) = false)
    (listed : first.score (.waitIndex shard) member = some deadline)
    (renewals : Renewals options shard member wait created first instants last)
    (stands : last.score (.waitIndex shard) member = some score)
    (runs : RunsOn (entryAt shard member wait score) created last caller child)
    (ends : Prog.Ends clockServe ((resolveEntry options (.waitIndex shard) member score :
      Proc Unit _).start ()) last outcome after) :
    (∀ instant ∈ instants, instant < ceilingOf options deadline created) ∧
      score < ceilingOf options deadline created + waitRenewIncrementMs ∧
      if last.clock < ceilingOf options deadline created then
        outcome.1 = .ok .childAlive ∧ Silent last after ∧
          after.score (.waitIndex shard) member = some (last.clock + waitRenewIncrementMs)
      else outcome.1 = .ok .timedOut ∧ Forsaken (entryAt shard member wait score) last after := by
  obtain ⟨remembers, early, _, also, below⟩ := renewals.openWait decoded nonzero fresh listed
  rw [stands] at also
  cases also
  have triaged := triaged_of_ends decoded runs ends
  have counted : Remembers (entryAt shard member wait score) deadline last := remembers.at
  have same := @ceilingIn_eq _ options _ _ created child counted nonzero stands runs.since
  unfold TriagedRunning at triaged
  rw [same] at triaged
  refine ⟨early, below, ?_⟩
  by_cases soon : last.clock < ceilingOf options deadline created
  · rw [if_pos soon] at triaged ⊢
    obtain ⟨alive, renewed, silent, _⟩ := triaged
    exact ⟨alive, silent, renewed.score⟩
  · rw [if_neg soon] at triaged ⊢
    exact triaged

end

/-! ### A callee that never replies -/

def aliveStore : RedisStore :=
  (lostCallStore.exec (.set (.workerOnlineLease "worker") (.number 1) false none)).2

def overdueStore : RedisStore :=
  (Prog.run redisAnswer ((resolveEntry auditor (.waitIndex (waitIndexShard "session"))
    (answeredDue "").member 1000 : Proc Unit _).start ()) aliveStore).2.advance 8000000

def askingCaller : ExecutionRecord where
  executionId := "exec-caller"
  messageId := "msg-caller"
  sessionId := "session"
  targetAgentType := "caller"
  status := AgentState.waitingAgent

def busyCallee : ExecutionRecord :=
  { buildExecutionRecord (answeredDispatch "") (.ctrlStream "callee") "exec-child" "" with
    workerId := "worker"
    status := statusRunning }

theorem renewals_bounded_overdue : ∃ outcome after,
    Renewals auditor (waitIndexShard "session") (answeredDue "").member (answeredDue "").entry 0
      aliveStore [2000] overdueStore ∧
    Prog.Ends clockServe ((resolveEntry auditor (.waitIndex (waitIndexShard "session"))
      (answeredDue "").member 302000 : Proc Unit _).start ()) overdueStore outcome after ∧
    outcome.1 = .ok .timedOut ∧ Forsaken (entryAt (waitIndexShard "session") (answeredDue "").member
      (answeredDue "").entry 302000) overdueStore after := by
  have decoded : decodeMember (answeredDue "").member = .ok (answeredDue "").entry :=
    decodeMember_encodeMember _
  have runs : RunsOn (entryAt (waitIndexShard "session") (answeredDue "").member
      (answeredDue "").entry 1000) 0 aliveStore askingCaller busyCallee :=
    ⟨by decide +kernel, by decide, by decide, by decide, .inl rfl, by decide +kernel, by decide,
      by decide, by decide, by decide +kernel, by decide⟩
  have late : RunsOn (entryAt (waitIndexShard "session") (answeredDue "").member
      (answeredDue "").entry 302000) 0 overdueStore askingCaller busyCallee :=
    ⟨by decide +kernel, by decide, by decide, by decide, .inl rfl, by decide +kernel, by decide,
      by decide, by decide, by decide +kernel, by decide⟩
  have renews := Prog.ends_run redisAnswer_clocked ((resolveEntry auditor
    (.waitIndex (waitIndexShard "session")) (answeredDue "").member 1000 : Proc Unit _).start ())
    aliveStore
  have returned : (Prog.run redisAnswer ((resolveEntry auditor
      (.waitIndex (waitIndexShard "session")) (answeredDue "").member 1000 :
      Proc Unit _).start ()) aliveStore).1.1 = .ok .childAlive := by
    decide +kernel
  have ends := Prog.ends_run redisAnswer_clocked ((resolveEntry auditor
    (.waitIndex (waitIndexShard "session")) (answeredDue "").member 302000 : Proc Unit _).start ())
    overdueStore
  have once := Renewals.renew .start (by decide +kernel) (by decide +kernel) runs renews returned
  have renewals : Renewals auditor (waitIndexShard "session") (answeredDue "").member
      (answeredDue "").entry 0 aliveStore [2000] overdueStore :=
    once.pass ⟨by decide +kernel, by decide +kernel, by decide +kernel, by decide +kernel⟩
  have bounded := renewals_bounded decoded (show (1000 : Int) ≠ 0 by decide) (by decide +kernel)
    (by decide +kernel) renewals (by decide +kernel) late ends
  have past : ¬ overdueStore.clock < ceilingOf auditor 1000 0 := by decide +kernel
  rw [if_neg past] at bounded
  exact ⟨_, _, renewals, ends, bounded.2.2⟩

end ByFramework
