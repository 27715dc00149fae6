import ByFramework.Fleet

/-! What a runner that was fenced, or found fatal, still consumes. -/

namespace ByFramework

open Async

def LoopState.polls (state : LoopState) : Bool :=
  state.running && decide (state.adminLifecycle ≠ "evicted") &&
    decide (state.adminLifecycle ≠ "suspended") && decide (state.healthState ≠ "degraded")

theorem consume_turn (rounds : Nat) :
    WorkerRunner.consume (rounds + 1) = (do
      let runner ← get
      let state ← ofProcess runner.workerId .loopState
      if state.polls then
        Task.failSoft WorkerRunner.consumeRound
        WorkerRunner.consume rounds
      else if !state.running ∨
          state.adminLifecycle = "evicted" ∧ state.healthState ≠ "degraded" then
        pure ⟨⟩
      else WorkerRunner.consume rounds) := by
  conv_lhs => unfold WorkerRunner.consume
  congr 1
  funext runner
  congr 1
  funext state
  obtain ⟨running, adminLifecycle, healthState⟩ := state
  by_cases evicted : adminLifecycle = "evicted" <;>
    by_cases suspended : adminLifecycle = "suspended" <;>
      by_cases degraded : healthState = "degraded" <;>
        cases running <;> simp_all [LoopState.polls]

/-- What runs on the objects of some runners, and whatever else shares their Redis. -/
inductive RunnerTask where
  | start (runner : WorkerRunner) (options : WorkerRunner.StartOptions) (rounds : Nat)
  | tick (runner : WorkerRunner) (signals : HealthSignals)
  | retry (runner : WorkerRunner)
  | control (runner : WorkerRunner)
  | message (worker : GatewayWorker) (groupName : String) (entry : StreamMessage)
  | other (program : Prog effects Unit)

def RunnerTask.program : RunnerTask → Prog effects Unit
  | .start runner options rounds =>
      toEnd (WorkerRunner.start options (WorkerRunner.runLoop rounds)) runner
  | .tick runner signals => toEnd (WorkerRunner.tick signals) runner
  | .retry runner => toEnd WorkerRunner.retryRenewal runner
  | .control runner => toEnd (runControlOnce runner.workerId runner.groupName) ()
  | .message worker groupName entry =>
      toEnd (worker.processAndAck groupName entry.streamName entry.msgId entry.command) ()
  | .other program => program

def TurnsFatal {ι : Type} (workerId : String) : Event effects ι → Prop
  | .issue _ (.process worker .fence) _ => worker = workerId
  | .issue _ (.process worker (.evaluateHealth _ _)) keepsRenewing =>
      worker = workerId ∧ keepsRenewing = false
  | _ => False

def PollsNotAfterFatal {ι : Type} (workerId : String) : List (Event effects ι) → Prop :=
  Meets fun past event => ∀ index state, event = .issue index (.process workerId .loopState) state →
    (∃ earlier ∈ past, TurnsFatal workerId earlier) → state.polls = false

/-- `start` sets the runner going only when it is not fatal already. -/
def FatalHeeded {ι : Type} (workerId : String) (config : Config effects Fleet ι Unit) :
    Event effects ι → Prop
  | .issue _ (.process worker .startLoop) _ =>
      worker = workerId → (config.state.process workerId).loop.healthState ≠ "fatal"
  | _ => True

section Runs

variable {ι : Type} [DecidableEq ι] {workerId : String} {tasks : ι → RunnerTask}
  {mayFail : RedisCommand → Prop}

def runnerWorld (mayFail : RedisCommand → Prop) (tasks : ι → RunnerTask) :
    World effects Fleet ι Unit :=
  livingWorld mayFail fun index => (tasks index).program

structure FatalInv (workerId : String) (past : List (Event effects ι))
    (config : Config effects Fleet ι Unit) : Prop where
  fatal : (∃ event ∈ past, TurnsFatal workerId event) →
    (config.state.process workerId).loop.healthState = "fatal"
  ended : (config.state.process workerId).loop.healthState = "fatal" →
    (config.state.process workerId).loop.running = false
  polls : PollsNotAfterFatal workerId past

omit [DecidableEq ι] in
theorem FatalInv.aside {past : List (Event effects ι)} {before after : Config effects Fleet ι Unit}
    {event : Event effects ι} (inv : FatalInv workerId past before)
    (fatal : (after.state.process workerId).loop.healthState = "fatal" →
      (before.state.process workerId).loop.healthState = "fatal")
    (stays : (before.state.process workerId).loop.healthState = "fatal" →
      (after.state.process workerId).loop.healthState = "fatal")
    (ends : (before.state.process workerId).loop.running = false →
      (after.state.process workerId).loop.running = false)
    (plain : ¬ TurnsFatal workerId event)
    (noTurn : ∀ index state, event ≠ .issue index (.process workerId .loopState) state) :
    FatalInv workerId (past ++ [event]) after := by
  constructor
  · rintro ⟨earlier, inside, turns⟩
    rcases List.mem_append.mp inside with inPast | isLast
    · exact stays (inv.fatal ⟨earlier, inPast, turns⟩)
    · obtain rfl := List.mem_singleton.mp isLast
      exact (plain turns).elim
  · exact fun found => ends (inv.ended (fatal found))
  · refine inv.polls.append ?_
    intro index state isTurn
    exact (noTurn index state isTurn).elim

def ProcessRequest.movesLoop : ProcessRequest → Bool
  | .fence | .startLoop | .evaluateHealth _ _ | .loopState => true
  | _ => false

theorem answer_loop {memory : ProcessMemory} {request : ProcessRequest}
    (keeps : request.movesLoop = false) :
    (memory.answer request).2.loop.running = memory.loop.running ∧
      (memory.answer request).2.loop.healthState = memory.loop.healthState := by
  cases request with
  | fence => cases keeps
  | startLoop => cases keeps
  | evaluateHealth now signals => cases keeps
  | _ => exact ⟨rfl, rfl⟩

theorem serve_loop {before after : Fleet} {op : Op} {reply : op.Reply}
    (served : Fleet.serve mayFail before op reply after)
    (elsewhere : ∀ request, op = .process workerId request → request.movesLoop = false) :
    (after.process workerId).loop.running = (before.process workerId).loop.running ∧
      (after.process workerId).loop.healthState = (before.process workerId).loop.healthState := by
  cases op with
  | redis command =>
      rw [(Fleet.serve_redis served).1]
      exact ⟨rfl, rfl⟩
  | process worker request =>
      obtain ⟨-, rfl⟩ := served
      by_cases same : workerId = worker
      · subst same
        simp only [Fleet.withProcess, Function.update_self]
        exact answer_loop (elsewhere request rfl)
      · simp only [Fleet.withProcess, ne_eq, same, not_false_eq_true, Function.update_of_ne,
          and_self]
  | _ =>
      obtain rfl := served
      exact ⟨rfl, rfl⟩

theorem answer_verdict {memory : ProcessMemory} {now : Int} {signals : HealthSignals} :
    (memory.answer (.evaluateHealth now signals)).2.loop.healthState = "fatal" ↔
      (memory.answer (.evaluateHealth now signals)).1 = false :=
  evaluateHealth_fatal_iff

theorem answer_ended {memory : ProcessMemory} {now : Int} {signals : HealthSignals}
    (fatal : (memory.answer (.evaluateHealth now signals)).1 = false) :
    (memory.answer (.evaluateHealth now signals)).2.loop.running = false := by
  change (memory.loop.running &&
    (evaluateHealth now signals memory.loop.healthState memory.health).keepsRenewing) = false
  rw [show (evaluateHealth now signals memory.loop.healthState memory.health).keepsRenewing = false
    from fatal, Bool.and_false]

omit [DecidableEq ι] in
theorem turned_append {past : List (Event effects ι)} {event : Event effects ι}
    (turned : ∃ earlier ∈ past ++ [event], TurnsFatal workerId earlier) :
    (∃ earlier ∈ past, TurnsFatal workerId earlier) ∨ TurnsFatal workerId event := by
  obtain ⟨earlier, inside, turns⟩ := turned
  rcases List.mem_append.mp inside with inPast | isLast
  · exact .inl ⟨earlier, inPast, turns⟩
  · exact .inr (List.mem_singleton.mp isLast ▸ turns)

omit [DecidableEq ι] in
/-- The requests that move the runner's loop, one after the other. -/
theorem FatalInv.moved {past : List (Event effects ι)} {before after : Config effects Fleet ι Unit}
    {index : ι} {request : ProcessRequest} {reply : request.Reply}
    (inv : FatalInv workerId past before) (moves : request.movesLoop = true)
    (heeded : FatalHeeded workerId before (.issue index (.process workerId request) reply))
    (answered : ((before.state.process workerId).answer request).1 = reply)
    (loop : after.state.process workerId =
      ((before.state.process workerId).answer request).2) :
    FatalInv workerId (past ++ [.issue index (.process workerId request) reply]) after := by
  cases request with
  | fence =>
      refine ⟨fun _ => by rw [loop]; rfl, fun _ => by rw [loop]; rfl, inv.polls.append ?_⟩
      rintro other state ⟨⟩
  | startLoop =>
      have alive := heeded rfl
      have same : (after.state.process workerId).loop.healthState =
          (before.state.process workerId).loop.healthState := by rw [loop]; rfl
      refine ⟨fun turned => ?_, fun fatal => (alive (same ▸ fatal)).elim, inv.polls.append ?_⟩
      · rcases turned_append turned with earlier | now
        · exact (alive (inv.fatal earlier)).elim
        · exact now.elim
      · rintro other state ⟨⟩
  | evaluateHealth now signals =>
      have verdict : (after.state.process workerId).loop.healthState = "fatal" ↔
          reply = false := by
        rw [loop, ← answered]
        exact answer_verdict
      refine ⟨fun turned => ?_, fun fatal => ?_, inv.polls.append ?_⟩
      · rcases turned_append turned with earlier | turns
        · have fatal := inv.fatal earlier
          refine verdict.mpr ?_
          simpa [ProcessMemory.answer, evaluateHealth, fatal] using answered.symm
        · exact verdict.mpr turns.2
      · rw [loop]
        exact answer_ended (answered.trans (verdict.mp fatal))
      · rintro other state ⟨⟩
  | loopState =>
      have same : after.state.process workerId = before.state.process workerId := loop
      have found : (before.state.process workerId).loop = reply := answered
      refine ⟨fun turned => ?_, ?_, inv.polls.append ?_⟩
      · rw [same]
        rcases turned_append turned with earlier | now
        · exact inv.fatal earlier
        · exact now.elim
      · rw [same]
        exact inv.ended
      · rintro other state isTurn turned
        cases isTurn
        have ended := inv.ended (inv.fatal turned)
        rw [found] at ended
        simp [LoopState.polls, ended]
  | _ => cases moves

omit [DecidableEq ι] in
theorem FatalInv.issue {past : List (Event effects ι)} {before after : Config effects Fleet ι Unit}
    {index : ι} {op : Op} {reply : op.Reply} (inv : FatalInv workerId past before)
    (heeded : FatalHeeded workerId before (.issue index op reply))
    (served : Fleet.serve mayFail before.state op reply after.state) :
    FatalInv workerId (past ++ [.issue index op reply]) after := by
  by_cases moves : ∃ request, op = .process workerId request ∧ request.movesLoop = true
  · obtain ⟨request, rfl, moves⟩ := moves
    obtain ⟨answered, memory⟩ := served
    refine inv.moved moves heeded answered ?_
    rw [memory]
    simp only [Fleet.withProcess, Function.update_self]
  · have elsewhere : ∀ request, op = .process workerId request → request.movesLoop = false :=
      fun request same => Bool.eq_false_iff.mpr fun moving => moves ⟨request, same, moving⟩
    obtain ⟨running, healthState⟩ := serve_loop served elsewhere
    refine inv.aside (fun fatal => healthState ▸ fatal) (fun fatal => healthState.trans fatal)
      (fun ended => running.trans ended) ?_ ?_
    · intro turns
      unfold TurnsFatal at turns
      split at turns
      · rename_i same
        cases same
        exact moves ⟨_, by rw [turns], rfl⟩
      · rename_i same
        cases same
        exact moves ⟨_, by rw [turns.1], rfl⟩
      · exact turns
    · rintro other state same
      cases same
      exact moves ⟨_, rfl, rfl⟩

/-- A runner that was fenced or found fatal polls no more, in every run in which `start` sets it
going only before that. -/
theorem fatal_runner_polls_no_more {first last : Config effects Fleet ι Unit}
    {events : List (Event effects ι)}
    (quiet : (first.state.process workerId).loop.healthState = "fatal" →
      (first.state.process workerId).loop.running = false)
    (runs : Runs (runnerWorld mayFail tasks) (FatalHeeded workerId) first events last) :
    PollsNotAfterFatal workerId events := by
  suffices inv : FatalInv workerId events last from inv.polls
  refine runs.invariant (FatalInv workerId) ?_ ?_
  · refine ⟨?_, quiet, ?_⟩
    · rintro ⟨event, inside, -⟩
      cases inside
    · intro earlier event rest split
      cases earlier <;> cases split
  · rintro past before event after inv heeded step
    cases step with
    | issue found served => exact inv.issue heeded served
    | start free started =>
        obtain ⟨-, unchanged⟩ := started
        refine inv.aside ?_ ?_ ?_ (fun turns => turns) ?_
        · exact fun fatal => unchanged ▸ fatal
        · exact fun fatal => unchanged ▸ fatal
        · exact fun ended => unchanged ▸ ended
        · rintro other state ⟨⟩
    | stop running stopped =>
        obtain rfl := stopped
        refine inv.aside id id id (fun turns => turns) ?_
        rintro other state ⟨⟩
    | lapse lapsed =>
        obtain ⟨now, -, rfl⟩ := lapsed
        refine inv.aside id id id (fun turns => turns) ?_
        rintro other state ⟨⟩

end Runs

section Fenced

def twin : WorkerRunner := { workerId := "twin", agentTypes := ["agent"], groupName := "engines" }

def twinClaimed : WorkerRunner := { twin with registry := { lockTokens := [("twin", "0")] } }

def rivalClaim : Prog effects Unit := toEnd (WorkerRegistry.claimWorkerId "twin" 60) {}

/-- A runner, two ticks of its heartbeat while its event loop lags, and a rival. -/
def twinTasks : Fin 4 → RunnerTask
  | 0 => .start twin {} 2
  | 1 => .other rivalClaim
  | 2 => .tick twinClaimed { peakLoopLagMs := 6000 }
  | 3 => .tick twinClaimed { peakLoopLagMs := 6000 }

def twinPlayer : Player effects Fleet (Fin 4) Unit Int :=
  programPlayer fun index => (twinTasks index).program

theorem twin_plays : twinPlayer.Plays (runnerWorld (fun _ => False) twinTasks) :=
  programPlayer_plays_living _ _

def twinPlay (moves : List (Move (Fin 4) Int)) :
    List (Event effects (Fin 4)) × Config effects Fleet (Fin 4) Unit :=
  twinPlayer.play ⟨Fleet.fresh, fun _ => none⟩ moves

/-- Whether a step is one that `FatalHeeded` lets pass. -/
def heedsFatal (config : Config effects Fleet (Fin 4) Unit) : Event effects (Fin 4) → Bool
  | .issue _ (.process worker .startLoop) _ =>
      !decide (worker = "twin") || decide ((config.state.process "twin").loop.healthState ≠ "fatal")
  | _ => true

theorem heedsFatal_sound (config : Config effects Fleet (Fin 4) Unit)
    (event : Event effects (Fin 4)) (heeds : heedsFatal config event = true) :
    FatalHeeded "twin" config event := by
  unfold FatalHeeded
  split
  · rintro rfl
    simpa [heedsFatal] using heeds
  · trivial

def endedMoves : List (Move (Fin 4) Int) :=
  Move.turn 0 15 ++ Move.turn 2 14 ++ [.pass 120000] ++ Move.turn 3 2 ++ List.replicate 2 (.go 0)

theorem fatal_runner_polls_no_more_ended : PollsNotAfterFatal "twin" (twinPlay endedMoves).1 := by
  have minds : twinPlayer.minds heedsFatal ⟨Fleet.fresh, fun _ => none⟩ endedMoves = true := by
    decide +kernel
  exact fatal_runner_polls_no_more (fun fatal => absurd fatal (by decide +kernel))
    (twin_plays.runs_minding heedsFatal_sound _ _ minds)

/-- The lease lapses while the runner comes up, and a rival claims the id: the first renewal finds
that out, and the loop is started all the same. -/
def fencedMoves : List (Move (Fin 4) Int) :=
  Move.turn 0 6 ++ [.pass 60000] ++ Move.turn 1 3 ++ List.replicate 10 (.go 0)

def pollsAfterFence : Bool → List (Event effects (Fin 4)) → Bool
  | _, [] => false
  | _, .issue _ (.process "twin" .fence) _ :: rest => pollsAfterFence true rest
  | fenced, .issue _ (.process "twin" .loopState) state :: rest =>
      (fenced && (show LoopState from state).polls) || pollsAfterFence fenced rest
  | fenced, _ :: rest => pollsAfterFence fenced rest

theorem pollsAfterFence_sound (past : List (Event effects (Fin 4))) {rest} (fenced : Bool)
    (known : fenced = true → ∃ event ∈ past, TurnsFatal "twin" event)
    (polls : pollsAfterFence fenced rest = true) : ¬ PollsNotAfterFatal "twin" (past ++ rest) := by
  induction rest generalizing past fenced with
  | nil => cases polls
  | cons event rest ih =>
      intro meets
      have next : PollsNotAfterFatal "twin" ((past ++ [event]) ++ rest) := by
        simpa using meets
      have isLast (event : Event effects (Fin 4)) : event ∈ past ++ [event] :=
        List.mem_append_right past (List.mem_singleton.mpr rfl)
      unfold pollsAfterFence at polls
      split at polls
      · rename_i isEmpty
        cases isEmpty
      · rename_i index reply others split
        obtain ⟨rfl, rfl⟩ := List.cons.inj split
        exact ih _ true (fun _ =>
          ⟨_, isLast (.issue index (.process "twin" .fence) reply), rfl⟩) polls next
      · rename_i index state others split
        obtain ⟨rfl, rfl⟩ := List.cons.inj split
        rcases Bool.or_eq_true_iff.mp polls with now | later
        · obtain ⟨before, polling⟩ := Bool.and_eq_true_iff.mp now
          have idle := meets past _ rest rfl index state rfl (known before)
          rw [idle] at polling
          cases polling
        · refine ih _ _ (fun fatal => ?_) later next
          obtain ⟨earlier, inside, turns⟩ := known fatal
          exact ⟨earlier, List.mem_append_left _ inside, turns⟩
      · rename_i others split
        obtain ⟨rfl, rfl⟩ := List.cons.inj split
        refine ih _ _ (fun fatal => ?_) polls next
        obtain ⟨earlier, inside, turns⟩ := known fatal
        exact ⟨earlier, List.mem_append_left _ inside, turns⟩

/-- A runner that was fenced while it came up polls. -/
theorem fatal_runner_polled :
    Runs (runnerWorld (fun _ => False) twinTasks) (fun _ _ => True) ⟨Fleet.fresh, fun _ => none⟩
        (twinPlay fencedMoves).1 (twinPlay fencedMoves).2 ∧
      ¬ PollsNotAfterFatal "twin" (twinPlay fencedMoves).1 :=
  ⟨twin_plays.runs _ _, pollsAfterFence_sound [] false nofun (by decide +kernel)⟩

end Fenced

end ByFramework
