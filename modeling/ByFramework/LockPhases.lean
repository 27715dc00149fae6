import ByFramework.Fleet
import ByFramework.Redis.Lock
import ByFramework.Untending

/-! Where a sweeper is with the lock of a shard, as its own operations tell. -/

namespace ByFramework

open Async

/-! ### Where a sweeper is with a shard -/

inductive LockPhase where
  | away
  | holding
  | releasing
deriving DecidableEq

def LockPhase.settle : LockPhase → LockPhase
  | .releasing => .away
  | phase => phase

section

variable {ι : Type} [DecidableEq ι]

/-- Whether a lock carries a token that `index` drew. -/
def drawnBy (owner : String → ι) (index : ι) (lock : Option Value) : Bool :=
  (decodeLockToken lock).any fun token => decide (owner token = index)

/-- What a task may do to the lock of a shard: claim it under a token of its own, delete it where
the last look found it its own, and look the shard over while it holds it. -/
def lockAllows (owner : String → ι) (shard : Nat) (index : ι) (phase : LockPhase) : Op → Prop
  | .redis (.set key value ifAbsent _) => key = .waitSweepLock shard →
      ifAbsent = true ∧ drawnBy owner index (some value) = true
  | .redis (.del key) => key = .waitSweepLock shard → phase = .releasing
  | .redis (.expire key _) => key ≠ .waitSweepLock shard
  | .redis (.zrangebyscore key _ _ _) | .redis (.zremrangebyscore key _ _) =>
      key = .waitIndex shard → phase = .holding
  | _ => True

/-- A task holds the lock from a claim that came through to the look that begins its release. -/
def lockNote (owner : String → ι) (shard : Nat) (index : ι) (phase : LockPhase) :
    (op : Op) → op.Reply → LockPhase
  | .redis (.set key _ _ _), reply =>
      if key ≠ .waitSweepLock shard then phase.settle
      else if reply.toOption = some true then .holding else .away
  | .redis (.get key), reply =>
      if key ≠ .waitSweepLock shard then phase.settle
      else if drawnBy owner index (reply.toOption.join) then .releasing else .away
  | _, _ => phase.settle

def lockWatch (owner : String → ι) (shard : Nat) (index : ι) : Watch effects LockPhase where
  first := .away
  note := lockNote owner shard index
  allow := lockAllows owner shard index
  expect _ op reply := match op, reply with
    | .uuid, id => owner (String.ofList (id.toList.filter (· ≠ '-'))) = index ∧
        String.ofList (id.toList.filter (· ≠ '-')) ≠ ""
    | _, _ => True

variable {σ α : Type} {memory : σ} {owner : String → ι} {index : ι} {shard this : Nat}
  {phase : LockPhase} {options : SweeperOptions}

theorem drawnBy_token {token : String} (own : owner token = index) :
    drawnBy owner index (some (.json (.object [("token", .string token)]))) = true := by
  simp [drawnBy, decodeLockToken, tokenField, JsonValue.toText, own]

theorem drawnBy_unique {other : ι} {lock : Option Value}
    (left : drawnBy owner index lock = true) (right : drawnBy owner other lock = true) :
    index = other := by
  unfold drawnBy at left right
  cases found : decodeLockToken lock with
  | none => simp [found] at left
  | some token =>
      simp only [found, Option.any_some, decide_eq_true_eq] at left right
      exact left.symm.trans right

theorem untending_kept (owner : String → ι) (shard : Nat) (index : ι) (fact : LockPhase → Prop)
    (settles : ∀ phase, fact phase → fact phase.settle) (phase : LockPhase) (op : Op)
    (held : fact phase) (spared : untending.allowed op) :
    (lockWatch owner shard index).allow phase op ∧ ∀ reply : op.Reply,
      (lockWatch owner shard index).expect phase op reply → untending.expected op reply ∧
        fact ((lockWatch owner shard index).note phase op reply) := by
  have spares : op.tends = false := spared
  cases op with
  | redis command =>
      constructor
      · cases command with
        | set key _ _ _ | del key | expire key _ | zrangebyscore key _ _ _
          | zremrangebyscore key _ _ =>
            rintro rfl
            cases spares
        | _ => trivial
      · intro reply _
        refine ⟨trivial, ?_⟩
        cases command with
        | set key _ _ _ | get key =>
            have differ : key ≠ .waitSweepLock shard := by
              rintro rfl
              cases spares
            simpa [lockWatch, lockNote, differ] using settles phase held
        | _ => exact settles phase held
  | _ => exact ⟨trivial, fun reply _ => ⟨trivial, settles phase held⟩⟩

theorem untending_phase {task : Proc σ α} (fact : LockPhase → Prop)
    (settles : ∀ phase, fact phase → fact phase.settle) (uses : task.Uses untending)
    (holds : fact phase) :
    task.wp (lockWatch owner shard index).setting (fun _ _ later => fact later) memory phase :=
  Task.wp_mono (wp_of_uses_watched fact uses (untending_kept _ _ _ fact settles) trivial holds)
    fun _ _ _ _ kept => kept.2

def Minds (owner : String → ι) (shard : Nat) (index : ι) (task : Proc σ α) : Prop :=
  ∀ memory phase, task.wp (lockWatch owner shard index).setting (fun _ _ _ => True) memory phase

theorem Minds.bind {β : Type} {task : Proc σ α} {next : α → Proc σ β}
    (first : Minds owner shard index task) (rest : ∀ value, Minds owner shard index (next value)) :
    Minds owner shard index (task >>= next) := by
  intro memory phase
  refine Task.wp_alone_bind (Task.wp_mono (first memory phase) ?_)
  rintro (error | value) later after - -
  · trivial
  · exact rest value later after

theorem Minds.pure (value : α) : Minds owner shard index (Pure.pure value : Proc σ α) :=
  fun _ _ => Task.wp_alone_pure trivial

theorem Minds.of_untending {task : Proc σ α} (uses : task.Uses untending) :
    Minds owner shard index task :=
  fun _ _ => untending_phase (fun _ => True) (fun _ _ => trivial) uses trivial

theorem Minds.failSoft {task : Proc σ PUnit} (minds : Minds owner shard index task) :
    Minds owner shard index (Task.failSoft task) := by
  intro memory phase
  refine Task.wp_failSoft (Task.wp_mono (minds memory phase) ?_) trivial
  rintro outcome later after - - last - -
  trivial

theorem sweepShardHeld_phase (pruning : Bool) (held : this = shard → phase = .holding) :
    (sweepShardHeld options this pruning : Proc σ Outcomes).wp
      (lockWatch owner shard index).setting (fun _ _ later => this = shard → later = .holding)
      memory phase := by
  have settles {phase : LockPhase} (held : this = shard → phase = .holding) :
      this = shard → phase.settle = .holding := fun same => by rw [held same]; rfl
  have look {command : RedisCommand} {phase : LockPhase} {memory : σ}
      (held : this = shard → phase = .holding)
      (allowed : lockAllows owner shard index phase (.redis command))
      (noted : ∀ reply, lockNote owner shard index phase (.redis command) reply = phase.settle) :
      (redis command : Proc σ _).wp (lockWatch owner shard index).setting
        (fun _ _ later => this = shard → later = .holding) memory phase := by
    refine wp_redis_watched allowed fun reply _ => ?_
    simp only [lockWatch, noted]
    exact settles held
  have within {phase : LockPhase} (held : this = shard → phase = .holding) :
      Key.waitIndex this = .waitIndex shard → phase = .holding := by
    rintro ⟨⟩
    exact held rfl
  have resolves (outcomes : Outcomes) (memory : σ) (phase : LockPhase)
      (held : this = shard → phase = .holding) : (if options.enabled then tryCatch
      (do
        let resolved ← resolveDueEntries options this
        pure (outcomes.merge resolved))
      fun _ => pure (outcomes.add .error 1)
    else pure outcomes : Proc σ Outcomes).wp (lockWatch owner shard index).setting
      (fun _ _ later => this = shard → later = .holding) memory phase := by
    split
    · refine Task.wp_alone_tryCatch (Task.wp_alone_bind ?_)
      refine Task.wp_alone_bind (wp_await_watched trivial fun now _ => ?_)
      have settled := settles held
      refine Task.wp_alone_bind (Task.wp_mono (look settled (within settled) fun _ => rfl) ?_)
      rintro (error | due) later after - kept
      · exact Task.wp_alone_pure kept
      · refine Task.wp_mono (untending_phase (fun phase => this = shard → phase = .holding)
          (fun _ => settles) (resolveEach_untending _ _ _) kept) ?_
        rintro (error | outcomes) later after - kept
        · exact Task.wp_alone_pure kept
        · exact Task.wp_alone_pure kept
    · exact Task.wp_alone_pure held
  unfold sweepShardHeld
  dsimp only
  split
  · refine Task.wp_alone_bind (Task.wp_alone_tryCatch ?_)
    rw [map_eq_pure_bind]
    refine Task.wp_alone_bind (Task.wp_alone_bind (wp_await_watched trivial fun now _ => ?_))
    have settled := settles held
    refine Task.wp_mono (look settled (within settled) fun _ => rfl) ?_
    rintro (error | removed) later after - kept
    · exact Task.wp_alone_pure (Task.wp_alone_pure kept)
    · exact Task.wp_alone_pure (resolves _ _ _ kept)
  · exact resolves _ _ _ held

theorem releaseScopedLock_minds {token : String} (own : owner token = index)
    (drawn : token ≠ "") : Minds owner shard index
      (releaseScopedLock (.waitSweepLock this) token : Proc σ Bool) := by
  intro memory phase
  refine Task.wp_alone_bind (wp_redis_watched trivial fun reply _ => ?_)
  cases reply with
  | error message => trivial
  | ok raw =>
      simp only [Except.mapError, drawn, if_false]
      split
      · exact Task.wp_alone_pure trivial
      · split
        · exact Task.wp_alone_pure trivial
        · rename_i found
          have looked : drawnBy owner index raw = true := by
            simp [drawnBy, not_not.mp found, own]
          refine Task.wp_alone_bind (wp_redis_watched ?_ fun reply _ => ?_)
          · rintro ⟨⟩
            simp [lockWatch, lockNote, Except.toOption, looked]
          · cases reply with
            | error message => trivial
            | ok removed => exact Task.wp_alone_pure trivial

theorem sweepShard_minds (pruning : Bool) : Minds owner shard index
    (sweepShard options this pruning : Proc σ Outcomes) := by
  intro memory phase
  unfold sweepShard
  split
  · exact Task.wp_alone_pure trivial
  refine Task.wp_alone_bind (Task.wp_alone_bind (wp_await_watched trivial ?_))
  rintro id ⟨own, drawn⟩
  refine Task.wp_alone_pure (Task.wp_alone_bind (Task.wp_alone_tryCatch ?_))
  refine wp_redis_watched (fun _ => ⟨rfl, drawnBy_token own⟩) fun reply _ => ?_
  cases reply with
  | error message => exact Task.wp_alone_pure (Task.wp_alone_pure trivial)
  | ok taken =>
      cases taken with
      | false => exact Task.wp_alone_pure trivial
      | true =>
          refine Task.wp_alone_bind (Task.wp_mono (sweepShardHeld_phase pruning ?_) ?_)
          · rintro rfl
            simp [lockWatch, lockNote, Except.toOption]
          · rintro (error | outcomes) later after - -
            · trivial
            · have released : Minds owner shard index (Task.failSoft do
                  let _ ← releaseScopedLock (.waitSweepLock this) (String.ofList
                    (id.toList.filter (· ≠ '-'))) : Proc σ PUnit) :=
                .failSoft (.bind (releaseScopedLock_minds own drawn) fun _ => .pure _)
              exact released.bind (fun _ => .pure _) later after

theorem sweepShards_minds (pruning : Bool) (shards : List Nat) (outcomes : Outcomes) :
    Minds owner shard index (sweepShards options pruning shards outcomes : Proc σ Outcomes) := by
  induction shards generalizing outcomes with
  | nil => exact .pure _
  | cons this rest ih => exact .bind (sweepShard_minds pruning) fun more => ih _

theorem sweepOnce_minds : Minds owner shard index (sweepOnce options) := by
  have looks : (pruneIsDue options).Uses untending := by
    unfold pruneIsDue
    split
    · exact Task.uses_pure _
    · refine Task.uses_bind (Task.uses_await rfl) fun now => ?_
      refine Task.uses_bind Task.uses_get fun memory => ?_
      split
      · exact Task.uses_pure _
      · exact Task.uses_bind (Task.uses_modify fun _ _ => trivial) fun _ => Task.uses_pure _
  refine .bind (.of_untending looks) fun pruning => ?_
  refine .bind (.of_untending Task.uses_get) fun memory => ?_
  refine .bind (sweepShards_minds pruning _ _) fun outcomes => ?_
  exact .bind (.of_untending (Task.uses_modify fun _ _ => trivial)) fun _ => .pure _

theorem sweepLoop_minds (passes : Nat) : Minds owner shard index (sweepLoop options passes) := by
  induction passes with
  | zero => exact .pure _
  | succ passes ih =>
      exact .bind (.failSoft (.bind sweepOnce_minds fun _ => .pure _)) fun _ => ih

end

end ByFramework
