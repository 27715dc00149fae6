import ByFramework.LockPhases

/-!
The lock of a shard of the wait index, among any number of sweepers: while a claim of it lasts no
other pass begins to work on the shard, unless the claim came while a release was under way.
-/

namespace ByFramework

open Async

/-- A sweeper, or a task that leaves the locks of the sweep alone. -/
inductive LockTask where
  | sweeper (options : SweeperOptions) (memory : SweeperMemory) (passes : Nat)
  | other (program : Prog effects Unit) (leaves : program.Uses untending)

def LockTask.program : LockTask → Prog effects Unit
  | .sweeper options memory passes => toEnd (sweepLoop options passes) memory
  | .other program _ => program

section

variable {ι : Type} [DecidableEq ι]

def lockWorld (mayFail : RedisCommand → Prop) (tasks : ι → LockTask) :
    World effects Fleet ι Unit :=
  programWorld mayFail fun index => (tasks index).program

/-- No two tasks draw one id, and none draws an empty one. -/
def IdsDiffer (owner : String → ι) (_ : Config effects Fleet ι Unit) : Event effects ι → Prop
  | .issue index .uuid id => owner (String.ofList (id.toList.filter (· ≠ '-'))) = index ∧
      String.ofList (id.toList.filter (· ≠ '-')) ≠ ""
  | _ => True

def claimOf (index : ι) (shard : Nat) (value : Value) (ttl : Nat) : Event effects ι :=
  .issue index (.redis (.set (.waitSweepLock shard) value true (some ttl))) (.ok true)

/-- Whether a task holds the lock of a shard: it claimed it and has not come to release it. -/
def AtWork (owner : String → ι) (shard : Nat) (index : ι) (past : List (Event effects ι)) : Prop :=
  (lockWatch owner shard index).memo index past = .holding

/-- The operations of a pass that concern a shard as a whole. -/
def Op.looksOver (shard : Nat) : Op → Bool
  | .redis (.zrangebyscore key _ _ _) | .redis (.zremrangebyscore key _ _) =>
      key = .waitIndex shard
  | _ => false

/-- The lock claimed at `before` has run out, or was deleted: by its claimer, or by a task that
was about to delete the lock when it was claimed. -/
def LockLost (shard : Nat) (claimer : ι) (ttl : Nat) (before : Config effects Fleet ι Unit)
    (between : List (Event effects ι)) (now : Config effects Fleet ι Unit) : Prop :=
  before.state.store.clock + 1000 * ttl ≤ now.state.store.clock ∨
    ∃ releaser reply, .issue releaser (.redis (.del (.waitSweepLock shard))) reply ∈ between ∧
      (releaser = claimer ∨ before.Awaits releaser (.redis (.del (.waitSweepLock shard))))

variable {owner : String → ι} {tasks : ι → LockTask} {mayFail : RedisCommand → Prop}
  {shard : Nat} {claimer : ι} {value : Value} {ttl : Nat}

theorem LockTask.program_wp (index : ι) (task : LockTask) :
    task.program.wp (lockWatch owner shard index).setting (fun _ _ => True)
      (lockWatch owner shard index).first := by
  cases task with
  | sweeper options memory passes => exact wp_toEnd (sweepLoop_minds passes memory .away)
  | other program leaves =>
      have meets : program.wp (lockWatch owner shard index).setting (fun _ _ => True ∧ True)
          .away := by
        refine Prog.wp_of_uses (fun _ _ _ _ _ => trivial) ?_ leaves trivial
        intro before op _ _ spared
        obtain ⟨allowed, noted⟩ :=
          untending_kept owner shard index (fun _ => True) (fun _ _ => trivial) before op trivial
            spared
        refine ⟨allowed, ?_⟩
        rintro reply after ⟨expected, rfl⟩ -
        exact noted reply expected
      exact Prog.wp_mono meets fun _ _ _ _ => trivial

abbrev LocksWatched (owner : String → ι) (shard : Nat) (past : List (Event effects ι))
    (config : Config effects Fleet ι Unit) : Prop :=
  Watched (lockWatch owner shard) (fun _ _ _ => True) past config

theorem LocksWatched.step {past : List (Event effects ι)}
    {before after : Config effects Fleet ι Unit} {event : Event effects ι}
    (watched : LocksWatched owner shard past before) (differ : IdsDiffer owner before event)
    (step : Step (lockWorld mayFail tasks) before event after) :
    LocksWatched owner shard (past ++ [event]) after := by
  refine Watched.step watched step ?_ ?_
  · rintro index op reply rfl
    cases op with
    | uuid => exact differ
    | _ => trivial
  · rintro index program rfl ⟨rfl, -⟩
    exact LockTask.program_wp index (tasks index)

theorem locks_watched {first last : Config effects Fleet ι Unit} {events : List (Event effects ι)}
    (idle : ∀ index, first.task index = none)
    (runs : Runs (lockWorld mayFail tasks) (IdsDiffer owner) first events last) :
    LocksWatched owner shard events last := by
  refine runs.invariant (LocksWatched owner shard) ?_ fun _ _ _ _ watched differ step =>
    watched.step differ step
  intro index program running
  rw [idle index] at running
  cases running

/-! ### While a claim lasts -/

/-- The claim stands: only its claimer, or a task that was about to, comes to delete the lock,
and no other task has begun to work on the shard. -/
structure ClaimStands (owner : String → ι) (shard : Nat) (claimer : ι) (value : Value) (ttl : Nat)
    (before : Config effects Fleet ι Unit) (past between : List (Event effects ι))
    (now : Config effects Fleet ι Unit) : Prop where
  locked : now.state.store.Locked (.waitSweepLock shard) value
    (before.state.store.clock + 1000 * ttl)
  releasers : ∀ index, now.Awaits index (.redis (.del (.waitSweepLock shard))) →
    index = claimer ∨ before.Awaits index (.redis (.del (.waitSweepLock shard)))
  workers : ∀ index,
    AtWork owner shard index (past ++ [claimOf claimer shard value ttl] ++ between) →
      index = claimer ∨ AtWork owner shard index past

theorem clock_step {before after : Config effects Fleet ι Unit} {event : Event effects ι}
    (step : Step (lockWorld mayFail tasks) before event after) :
    before.state.store.clock ≤ after.state.store.clock := by
  cases step with
  | @issue index op resume reply after found served =>
      have served : Fleet.serve mayFail before.state op reply after := served
      cases op with
      | redis command =>
          refine Fleet.serve_store (fun store => before.state.store.clock ≤ store.clock) served
            (le_refl _) ?_
          rw [Redis.Store.clock_exec]
      | _ =>
          have same := Fleet.serve_other served (by rintro command ⟨⟩)
          exact le_of_eq (congrArg Redis.Store.clock same.symm)
  | start free started => exact le_of_eq (by rw [started.2])
  | stop found stopped => exact le_of_eq (by rw [stopped])
  | lapse lapsed =>
      cases lapsed with
      | time now later => exact later
      | restart workerId => exact le_refl _

theorem found_of_releasing {index : ι} {phase : LockPhase} {op : Op} {reply : op.Reply}
    {before after : Fleet} (served : Fleet.serve mayFail before op reply after)
    (looked : lockNote owner shard index phase op reply = .releasing) :
    drawnBy owner index (before.store.text (.waitSweepLock shard)) = true := by
  have settled (phase : LockPhase) : phase.settle ≠ .releasing := by cases phase <;> nofun
  unfold lockNote at looked
  split at looked
  · split at looked
    · exact absurd looked (settled phase)
    · split at looked <;> cases looked
  · rename_i key reply
    split at looked
    · exact absurd looked (settled phase)
    · rename_i same
      obtain rfl := not_not.mp same
      split at looked
      · rename_i own
        cases reply with
        | error message => simp [Except.toOption, drawnBy, decodeLockToken] at own
        | ok found =>
            have done := Fleet.serve_ok served
            simp only [Redis.Store.exec, Prod.mk.injEq, Except.ok.injEq] at done
            rw [done.1]
            exact own
      · cases looked
  · exact absurd looked (settled phase)

theorem holding_before {index : ι} {phase : LockPhase} {op : Op} {reply : op.Reply}
    {before after : Fleet} {limit : Int}
    (locked : before.store.Locked (.waitSweepLock shard) value limit)
    (allowed : lockAllows owner shard index phase op)
    (served : Fleet.serve mayFail before op reply after)
    (holds : lockNote owner shard index phase op reply = .holding) : phase = .holding := by
  have settled (held : phase.settle = .holding) : phase = .holding := by
    cases phase with
    | holding => rfl
    | _ => cases held
  unfold lockNote at holds
  split at holds
  · rename_i key other ifAbsent ttl reply
    split at holds
    · exact settled holds
    · rename_i same
      obtain rfl := not_not.mp same
      obtain ⟨rfl, -⟩ := allowed rfl
      split at holds
      · rename_i taken
        cases reply with
        | error message => cases taken
        | ok answer =>
            have done := Fleet.serve_ok served
            rw [locked.refuses] at done
            simp only [Prod.mk.injEq, Except.ok.injEq] at done
            obtain ⟨rfl, -⟩ := done
            cases taken
      · cases holds
  · split at holds
    · exact settled holds
    · split at holds <;> cases holds
  · exact settled holds

theorem locked_served {index : ι} {phase : LockPhase} {op : Op} {reply : op.Reply}
    {before after : Fleet} {limit : Int}
    (locked : before.store.Locked (.waitSweepLock shard) value limit)
    (allowed : lockAllows owner shard index phase op)
    (spared : op ≠ .redis (.del (.waitSweepLock shard)))
    (served : Fleet.serve mayFail before op reply after) :
    after.store.Locked (.waitSweepLock shard) value limit := by
  cases op with
  | redis command =>
      refine Fleet.serve_store (fun store => store.Locked (.waitSweepLock shard) value limit) served
        locked ?_
      by_cases keeps : command.keeps (fun key => decide (key = .waitSweepLock shard)) = true
      · exact locked.exec keeps
      · cases command with
        | set key other ifAbsent ttl =>
            obtain rfl : key = .waitSweepLock shard := by simpa [Redis.Command.keeps] using keeps
            obtain ⟨rfl, -⟩ := allowed rfl
            rw [locked.refuses]
            exact locked
        | del key =>
            obtain rfl : key = .waitSweepLock shard := by simpa [Redis.Command.keeps] using keeps
            exact absurd rfl spared
        | expire key ttl =>
            obtain rfl : key = .waitSweepLock shard := by simpa [Redis.Command.keeps] using keeps
            exact absurd rfl allowed
        | _ => exact absurd rfl keeps
  | _ =>
      have same := Fleet.serve_other served (by rintro command ⟨⟩)
      rw [same]
      exact locked

theorem AtWork.earlier {past : List (Event effects ι)} {event : Event effects ι} {index : ι}
    (works : AtWork owner shard index (past ++ [event]))
    (idle : ∀ op reply, event ≠ .issue index op reply) : AtWork owner shard index past := by
  unfold AtWork at works ⊢
  cases event with
  | issue other op reply =>
      by_cases same : other = index
      · subst same
        exact absurd rfl (idle op reply)
      · rw [Watch.memo_issue_other _ _ _ _ same] at works
        exact works
  | start other =>
      by_cases same : other = index
      · subst same
        rw [Watch.memo_start] at works
        cases works
      · rw [Watch.memo_start_other _ _ same] at works
        exact works
  | stop other =>
      rw [Watch.memo_stop] at works
      exact works
  | lapse =>
      rw [Watch.memo_lapse] at works
      exact works

theorem ClaimStands.step {before now next : Config effects Fleet ι Unit}
    {past between : List (Event effects ι)} {event : Event effects ι}
    (stands : ClaimStands owner shard claimer value ttl before past between now)
    (own : drawnBy owner claimer (some value) = true)
    (watched : LocksWatched owner shard
      (past ++ [claimOf claimer shard value ttl] ++ between) now)
    (later : LocksWatched owner shard
      (past ++ [claimOf claimer shard value ttl] ++ between ++ [event]) next)
    (kept : ¬ LockLost shard claimer ttl before (between ++ [event]) next)
    (step : Step (lockWorld mayFail tasks) now event next) :
    ClaimStands owner shard claimer value ttl before past (between ++ [event]) next := by
  have elsewhere {index : ι} (awaits : next.Awaits index (.redis (.del (.waitSweepLock shard))))
      (other : event.index ≠ some index) :=
    stands.releasers index (step.awaits awaits other)
  have releases {index : ι} (awaits : next.Awaits index (.redis (.del (.waitSweepLock shard)))) :
      (lockWatch owner shard index).memo index
        (past ++ [claimOf claimer shard value ttl] ++ between ++ [event]) = .releasing :=
    later.awaits awaits rfl
  have workers {index : ι} (works : AtWork owner shard index
      (past ++ [claimOf claimer shard value ttl] ++ (between ++ [event])))
      (idle : ∀ op reply, event ≠ .issue index op reply) :
      index = claimer ∨ AtWork owner shard index past := by
    rw [← List.append_assoc] at works
    exact stands.workers index (works.earlier idle)
  cases step with
  | @issue index op resume reply after found served =>
      have awaited : now.Awaits index op := ⟨resume, found⟩
      have allowed := watched.awaits awaited
      have spared : op ≠ .redis (.del (.waitSweepLock shard)) := by
        rintro rfl
        exact kept (.inr ⟨index, reply, by simp, stands.releasers index awaited⟩)
      refine ⟨locked_served stands.locked allowed spared served, ?_, ?_⟩
      · intro other awaits
        by_cases same : other = index
        · subst same
          have looked := releases awaits
          rw [Watch.memo_issue] at looked
          have drawn := found_of_releasing served looked
          rw [stands.locked.text] at drawn
          exact .inl (drawnBy_unique drawn own)
        · exact elsewhere awaits fun named => same (Option.some.inj named).symm
      · intro other works
        by_cases same : other = index
        · subst same
          unfold AtWork at works
          rw [← List.append_assoc, Watch.memo_issue] at works
          exact stands.workers other (holding_before stands.locked allowed served works)
        · exact workers works fun _ _ equal => same (Event.issue.inj equal).1.symm
  | @start index program after free started =>
      obtain ⟨-, rfl⟩ := started
      refine ⟨stands.locked, ?_, ?_⟩
      · intro other awaits
        by_cases same : other = index
        · subst same
          have looked := releases awaits
          rw [Watch.memo_start] at looked
          cases looked
        · exact elsewhere awaits fun named => same (Option.some.inj named).symm
      · exact fun other works => workers works (by rintro _ _ ⟨⟩)
  | @stop index program after found stopped =>
      obtain rfl : after = now.state := stopped
      refine ⟨stands.locked, ?_, ?_⟩
      · intro other awaits
        refine elsewhere awaits ?_
        rintro ⟨⟩
        obtain ⟨resume, running⟩ := awaits
        simp at running
      · exact fun other works => workers works (by rintro _ _ ⟨⟩)
  | @lapse after lapsed =>
      refine ⟨?_, fun other awaits => elsewhere awaits nofun, ?_⟩
      · cases lapsed with
        | time now later =>
            refine stands.locked.advance ?_
            by_contra late
            exact kept (.inl (not_lt.mp late))
        | restart workerId => exact stands.locked
      · exact fun other works => workers works (by rintro _ _ ⟨⟩)

theorem LockLost.step {before now next : Config effects Fleet ι Unit}
    {between : List (Event effects ι)} {event : Event effects ι}
    (lost : LockLost shard claimer ttl before between now)
    (step : Step (lockWorld mayFail tasks) now event next) :
    LockLost shard claimer ttl before (between ++ [event]) next := by
  rcases lost with late | ⟨releaser, reply, listed, either⟩
  · exact .inl (late.trans (clock_step step))
  · exact .inr ⟨releaser, reply, List.mem_append_left _ listed, either⟩

theorem ClaimStands.of_claim {before claimed : Config effects Fleet ι Unit}
    {past : List (Event effects ι)}
    (step : Step (lockWorld mayFail tasks) before (claimOf claimer shard value ttl) claimed) :
    ClaimStands owner shard claimer value ttl before past [] claimed := by
  refine ⟨?_, ?_, ?_⟩
  · cases step with
    | issue found served => exact .of_claim (Fleet.serve_ok served)
  · intro index awaits
    by_cases same : index = claimer
    · exact .inl same
    · exact .inr (step.awaits awaits fun named => same (Option.some.inj named).symm)
  · intro index works
    by_cases same : index = claimer
    · exact .inl same
    · unfold AtWork claimOf at works
      rw [List.append_nil, Watch.memo_issue_other _ _ _ _ (Ne.symm same)] at works
      exact .inr works

/-- From the claim of a shard until its lock has run out or was deleted, nobody else claims the
shard, and only its claimer looks the shard over, or who was at work on it before. -/
theorem shard_swept_alone {first before claimed now last : Config effects Fleet ι Unit}
    {past between : List (Event effects ι)} {index : ι} {op : Op} {reply : op.Reply}
    (idle : ∀ index, first.task index = none)
    (reached : Runs (lockWorld mayFail tasks) (IdsDiffer owner) first past before)
    (claims : Step (lockWorld mayFail tasks) before (claimOf claimer shard value ttl) claimed)
    (runs : Runs (lockWorld mayFail tasks) (IdsDiffer owner) claimed between now)
    (kept : ¬ LockLost shard claimer ttl before between now)
    (step : Step (lockWorld mayFail tasks) now (.issue index op reply) last) :
    (∀ other again, .issue index op reply ≠ claimOf index shard other again) ∧
      (op.looksOver shard = true →
        AtWork owner shard index (past ++ [claimOf claimer shard value ttl] ++ between) ∧
        (index = claimer ∨ AtWork owner shard index past)) := by
  have watched : LocksWatched owner shard past before := locks_watched idle reached
  have own : drawnBy owner claimer (some value) = true := (watched.allows claims rfl).2
  have claiming : IdsDiffer owner before (claimOf claimer shard value ttl) := trivial
  have stands := runs.invariant (fun between now =>
    LocksWatched owner shard (past ++ [claimOf claimer shard value ttl] ++ between) now ∧
      (LockLost shard claimer ttl before between now ∨
        ClaimStands owner shard claimer value ttl before past between now))
    ⟨by simpa using watched.step claiming claims, .inr (.of_claim claims)⟩ ?_
  · obtain ⟨minding, lost | stands⟩ := stands
    · exact absurd lost kept
    have allowed := minding.allows step
    constructor
    · intro other again same
      cases same
      cases step with
      | issue found served =>
          have done := Fleet.serve_ok served
          rw [stands.locked.refuses] at done
          cases congrArg Prod.fst done
    · intro looks
      have works : AtWork owner shard index
          (past ++ [claimOf claimer shard value ttl] ++ between) := by
        unfold Op.looksOver at looks
        split at looks
        · exact allowed (of_decide_eq_true looks)
        · exact allowed (of_decide_eq_true looks)
        · cases looks
      exact ⟨works, stands.workers index works⟩
  · rintro between before event after ⟨minding, fate⟩ differ step
    have later := minding.step differ step
    refine ⟨by rwa [List.append_assoc] at later, ?_⟩
    rcases fate with lost | stands
    · exact .inl (lost.step step)
    · by_contra neither
      obtain ⟨kept, fallen⟩ := not_or.mp neither
      exact fallen (stands.step own minding later kept step)

end

/-! ### Two sweepers at one shard -/

namespace SweepLocks

inductive Side where
  | left | right
deriving DecidableEq

def pair : Side → LockTask
  | .left => .sweeper { workerId := "left", enabled := true, searchFuel := 10 } ⟨0, none⟩ 1
  | .right => .sweeper { workerId := "right", enabled := true, searchFuel := 10 } ⟨0, none⟩ 1

def drewFirst (token : String) : Side := if token = "0" then .left else .right

def pairPlayer : Player effects Fleet Side Unit Int :=
  programPlayer fun index => (pair index).program

theorem pair_plays : pairPlayer.Plays (lockWorld (fun _ => False) pair) := programPlayer_plays _ _

def idsDiffer (_ : Config effects Fleet Side Unit) : Event effects Side → Bool
  | .issue index .uuid id =>
      decide (drewFirst (String.ofList (id.toList.filter (· ≠ '-'))) = index) &&
        decide (String.ofList (id.toList.filter (· ≠ '-')) ≠ "")
  | _ => true

theorem idsDiffer_sound (config : Config effects Fleet Side Unit)
    (event : Event effects Side) (differ : idsDiffer config event = true) :
    IdsDiffer drewFirst config event := by
  unfold IdsDiffer
  split
  · simpa [idsDiffer] using differ
  · trivial

def aboutToClaim (config : Config effects Fleet Side Unit) (index : Side) (shard : Nat) : Bool :=
  match pairPlayer.move config (.go index) with
  | some (.issue by_ (.redis (.set key _ true (some ttl))) (.ok true), _) =>
      decide (by_ = index) && decide (key = .waitSweepLock shard) &&
        decide (ttl = waitSweepLockTtlSeconds)
  | _ => false

theorem claims_of_aboutToClaim {config : Config effects Fleet Side Unit} {index : Side}
    {shard : Nat} (about : aboutToClaim config index shard = true) :
    ∃ value, Step (lockWorld (fun _ => False) pair) config
      (claimOf index shard value waitSweepLockTtlSeconds)
      (pairPlayer.after config (.go index)) := by
  unfold aboutToClaim at about
  split at about
  · rename_i other key value ttl next made
    simp only [Bool.and_eq_true, decide_eq_true_eq] at about
    obtain ⟨⟨rfl, rfl⟩, rfl⟩ := about
    refine ⟨value, ?_⟩
    have step := pair_plays.step made
    simpa [claimOf, Player.after, made] using step
  · cases about

def drawnMoves : List (Move Side Int) := Move.turn .left 2

def secondMoves : List (Move Side Int) := .go .left :: .pass 100 :: Move.turn .right 2

def drawnPlay : List (Event effects Side) × Config effects Fleet Side Unit :=
  pairPlayer.play ⟨Fleet.fresh, fun _ => none⟩ drawnMoves

def claimedConfig : Config effects Fleet Side Unit := pairPlayer.after drawnPlay.2 (.go .left)

def secondPlay : List (Event effects Side) × Config effects Fleet Side Unit :=
  pairPlayer.play claimedConfig secondMoves

def deletes : Event effects Side → Bool
  | .issue _ (.redis (.del _)) _ => true
  | _ => false

/-- The left sweeper gets the shard, and the right one does not. -/
theorem shard_swept_alone_pair : aboutToClaim drawnPlay.2 .left 0 = true ∧
    ¬ ∃ value ttl last, Step (lockWorld (fun _ => False) pair) secondPlay.2
      (claimOf .right 0 value ttl) last := by
  have about : aboutToClaim drawnPlay.2 .left 0 = true := by decide +kernel
  refine ⟨about, ?_⟩
  rintro ⟨value, ttl, last, step⟩
  have drawn : pairPlayer.minds idsDiffer ⟨Fleet.fresh, fun _ => none⟩ drawnMoves = true := by
    decide +kernel
  have reached := pair_plays.runs_minding idsDiffer_sound ⟨Fleet.fresh, fun _ => none⟩ _ drawn
  obtain ⟨held, claims⟩ := claims_of_aboutToClaim about
  have differ : pairPlayer.minds idsDiffer claimedConfig secondMoves = true := by decide +kernel
  have runs := pair_plays.runs_minding idsDiffer_sound claimedConfig _ differ
  have kept : ¬ LockLost 0 .left waitSweepLockTtlSeconds drawnPlay.2 secondPlay.1 secondPlay.2 := by
    rintro (late | ⟨releaser, reply, listed, -⟩)
    · exact absurd late (by decide +kernel)
    · have undeleted : secondPlay.1.any deletes = false := by decide +kernel
      rw [List.any_eq_false] at undeleted
      exact undeleted _ listed rfl
  exact (shard_swept_alone (fun _ => rfl) reached claims runs kept step).1 value ttl rfl

end SweepLocks

end ByFramework
