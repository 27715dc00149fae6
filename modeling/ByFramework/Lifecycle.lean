import ByFramework.LifecycleCore
import ByFramework.Redis.Store

/-!
What starting a runner does to the registry when its worker id is taken, and exactly when the
holder of that id is left alone.
-/

namespace ByFramework

open Async

/-- The worker id of `runner` is leased under a token of some other process. -/
structure HeldByOther (store : RedisStore) (runner : WorkerRunner) (holder : String) : Prop where
  leased : (decodeWorkerPresence (store.text (.workerOnlineLease runner.workerId))).token =
    some holder
  notOurs : runner.lockToken ≠ some holder
  notClaimed : runner.registry.lockToken runner.workerId ≠ some holder

structure Untouched (workerId : String) (before after : RedisStore) : Prop where
  lease : after.text (.workerOnlineLease workerId) = before.text (.workerOnlineLease workerId)
  leaseTtl : after.expiresAt (.workerOnlineLease workerId) =
    before.expiresAt (.workerOnlineLease workerId)
  declared : after.members (.workerDeclaredAgentTypes workerId) =
    before.members (.workerDeclaredAgentTypes workerId)
  membersOf : ∀ agentType, after.members (.agentTypeMembers agentType) =
    before.members (.agentTypeMembers agentType)
  known : after.members .knownWorkers = before.members .knownWorkers

theorem Untouched.refl (workerId : String) (store : RedisStore) :
    Untouched workerId store store :=
  ⟨rfl, rfl, rfl, fun _ => rfl, rfl⟩

abbrev TimingValid (runner : WorkerRunner) : Prop :=
  0 < runner.heartbeatInterval ∧ 0 < runner.heartbeatLeaseTtlSeconds ∧
    runner.heartbeatInterval * WorkerRunner.minRenewalsPerLease ≤ runner.heartbeatLeaseTtlSeconds

/-- Some token keeps a failed start from deleting a lease it does not own. -/
def Guarded (runner : WorkerRunner) : Prop :=
  (truthyText runner.lockToken).isSome = true ∨
    (truthyText (runner.registry.lockToken runner.workerId)).isSome = true

def inUse (workerId : String) : JsError := ⟨"Error", "worker_id already in use: " ++ workerId⟩

section

variable {store : RedisStore} {runner : WorkerRunner} {holder : String}

theorem claimWorkerId_taken {registry : WorkerRegistry} {workerId : String} {ttlSeconds : Nat}
    (leased : (store.text (.workerOnlineLease workerId)).isSome = true) :
    (WorkerRegistry.claimWorkerId workerId ttlSeconds).wp (.alone redisServe)
      (fun outcome memory after => outcome = .error (inUse workerId) ∧ registry = memory ∧
        store = after) registry store := by
  refine Task.wp_alone_bind (Task.wp_alone_get ?_)
  refine Task.wp_alone_bind (wp_plainId_alone fun token => ?_)
  refine Task.wp_alone_bind (wp_redis_alone ?_)
  have taken : store.holds (.workerOnlineLease workerId) = true := by
    simp [Redis.Store.holds, leased]
  simp only [Redis.Store.exec, taken, Bool.and_self, ↓reduceIte, Except.mapError, Bool.not_false]
  exact Task.wp_alone_bind (Task.wp_alone_throw ⟨rfl, rfl, rfl⟩)

theorem HeldByOther.present (held : HeldByOther store runner holder) :
    (store.text (.workerOnlineLease runner.workerId)).isSome = true := by
  have leased := held.leased
  cases found : store.text (.workerOnlineLease runner.workerId) with
  | none => simp [found, decodeWorkerPresence] at leased
  | some value => rfl

theorem initializeRunner_taken (timing : TimingValid runner)
    (held : HeldByOther store runner holder) :
    WorkerRunner.initializeRunner.wp (.alone redisServe)
      (fun outcome memory after => outcome = .error (inUse runner.workerId) ∧ runner = memory ∧
        store = after) runner store := by
  obtain ⟨interval, ttl, renewals⟩ := timing
  have timed : WorkerRunner.assertHeartbeatTiming.wp (.alone redisServe)
      (fun outcome memory after => outcome = .ok ⟨⟩ ∧ runner = memory ∧ store = after)
      runner store := by
    refine Task.wp_alone_bind (Task.wp_alone_get ?_)
    have first : ¬ runner.heartbeatInterval ≤ 0 := by omega
    have second : ¬ (runner.heartbeatLeaseTtlSeconds : Int) ≤ 0 := by omega
    have third : ¬ runner.heartbeatInterval * WorkerRunner.minRenewalsPerLease >
        (runner.heartbeatLeaseTtlSeconds : Int) := by omega
    simp only [first, second, third, ↓reduceIte]
    exact Task.wp_alone_pure ⟨rfl, rfl, rfl⟩
  refine Task.wp_alone_bind (Task.wp_mono timed ?_)
  rintro outcome memory after - ⟨rfl, rfl, rfl⟩
  refine Task.wp_alone_bind (Task.wp_alone_get ?_)
  refine Task.wp_alone_bind (Task.wp_focus (Task.wp_mono (claimWorkerId_taken held.present) ?_)
    trivial)
  rintro outcome memory after - ⟨rfl, rfl, rfl⟩
  exact ⟨rfl, rfl, rfl⟩

theorem releaseWorkerId_refused {registry : WorkerRegistry} {workerId expected : String}
    {token : Option String}
    (expects : firstTruthy token (registry.lockToken workerId) = some expected)
    (leased : (decodeWorkerPresence (store.text (.workerOnlineLease workerId))).token = some holder)
    (differ : expected ≠ holder) :
    (WorkerRegistry.releaseWorkerId workerId token).wp (.alone redisServe)
      (fun outcome _ after => outcome = .ok false ∧ store = after) registry store := by
  refine Task.wp_alone_bind (Task.wp_alone_get ?_)
  simp only [expects]
  refine Task.wp_alone_bind (wp_redis_alone ?_)
  simp only [Redis.Store.exec, Except.mapError, leased, ne_eq, Option.some.injEq, differ.symm,
    not_false_eq_true, ↓reduceIte]
  exact Task.wp_alone_pure ⟨rfl, rfl⟩

theorem markWorkerInactive_refused {registry : WorkerRegistry} {workerId expected : String}
    {token : Option String}
    (expects : firstTruthy token (registry.lockToken workerId) = some expected)
    (leased : (decodeWorkerPresence (store.text (.workerOnlineLease workerId))).token = some holder)
    (differ : expected ≠ holder) :
    (WorkerRegistry.markWorkerInactive workerId token).wp (.alone redisServe)
      (fun outcome _ after => outcome = .ok false ∧ store = after) registry store := by
  refine Task.wp_alone_bind (Task.wp_alone_get ?_)
  simp only [expects]
  refine Task.wp_alone_bind (wp_redis_alone ?_)
  simp only [Redis.Store.exec, Except.mapError, leased, Option.isSome_some, ne_eq,
    Option.some.injEq, differ.symm, not_false_eq_true, and_self, ↓reduceIte]
  exact Task.wp_alone_pure ⟨rfl, rfl⟩

theorem markWorkerInactive_deletes {registry : WorkerRegistry} {workerId : String}
    {token : Option String} (expects : firstTruthy token (registry.lockToken workerId) = none) :
    (WorkerRegistry.markWorkerInactive workerId token).wp (.alone redisServe)
      (fun outcome _ after => outcome = .ok true ∧
        after.text (.workerOnlineLease workerId) = none) registry store := by
  refine Task.wp_alone_bind (Task.wp_alone_get ?_)
  simp only [expects]
  refine Task.wp_alone_bind (wp_redis_alone ?_)
  simp only [Redis.Store.exec, Except.mapError, Option.isSome_none, Bool.false_eq_true, false_and,
    ↓reduceIte]
  refine Task.wp_alone_bind (wp_redis_alone ?_)
  exact Task.wp_alone_pure ⟨rfl, by simp [Redis.Store.exec, Redis.Store.drop]⟩

theorem truthyText_eq_some {value : Option String} {token : String}
    (truthy : truthyText value = some token) : value = some token :=
  (Option.filter_eq_some_iff.mp truthy).1

theorem releaseWorkerId_guarded (held : HeldByOther store runner holder)
    (guarded : Guarded runner) :
    WorkerRunner.releaseWorkerId.wp (.alone redisServe)
      (fun outcome memory after => outcome = .ok false ∧ runner.workerId = memory.workerId ∧
        store = after) runner store := by
  refine Task.wp_alone_bind (Task.wp_alone_get ?_)
  cases own : truthyText runner.lockToken with
  | some mine =>
      have differ : mine ≠ holder := fun same => held.notOurs (same ▸ truthyText_eq_some own)
      have expects : firstTruthy (some mine) (runner.registry.lockToken runner.workerId) =
          some mine := by
        have present := truthyText_eq_some own
        rw [firstTruthy, ← present, own, present, Option.some_or]
      simp only [own]
      refine Task.wp_alone_bind (Task.wp_tryCatch (Task.wp_focus (Task.wp_mono
        (releaseWorkerId_refused expects held.leased differ) ?_) trivial) trivial)
      rintro outcome memory after - ⟨rfl, rfl⟩ last rfl -
      exact Task.wp_alone_bind (Task.wp_alone_modify (Task.wp_alone_pure ⟨rfl, rfl, rfl⟩))
  | none =>
      have claims : (truthyText (runner.registry.lockToken runner.workerId)).isSome = true := by
        rcases guarded with ours | claimed
        · simp [own] at ours
        · exact claimed
      obtain ⟨mine, claimed⟩ := Option.isSome_iff_exists.mp claims
      have differ : mine ≠ holder := fun same => held.notClaimed (same ▸ truthyText_eq_some claimed)
      simp only [own]
      refine Task.wp_focus (Task.wp_mono (markWorkerInactive_refused
        (show firstTruthy none _ = some mine from claimed) held.leased differ) ?_) trivial
      rintro outcome memory after - ⟨rfl, rfl⟩
      exact ⟨rfl, rfl, rfl⟩

theorem releaseWorkerId_unguarded (unguarded : ¬ Guarded runner) :
    WorkerRunner.releaseWorkerId.wp (.alone redisServe)
      (fun outcome _ after => outcome = .ok true ∧
        after.text (.workerOnlineLease runner.workerId) = none) runner store := by
  simp only [Guarded, not_or, Bool.not_eq_true, Option.isSome_eq_false_iff,
    Option.isNone_iff_eq_none] at unguarded
  refine Task.wp_alone_bind (Task.wp_alone_get ?_)
  simp only [unguarded.1]
  refine Task.wp_focus (Task.wp_mono (markWorkerInactive_deletes
    (show firstTruthy none _ = none from unguarded.2)) ?_) trivial
  rintro outcome memory after - ⟨rfl, gone⟩
  exact ⟨rfl, gone⟩

theorem unregisterWorkerMembership_lease {memory : WorkerRunner} {workerId : String}
    (gone : store.text (.workerOnlineLease workerId) = none) :
    (unregisterWorkerMembership workerId).wp (.alone redisServe)
      (fun outcome _ after => outcome = .ok ⟨⟩ ∧ after.text (.workerOnlineLease workerId) = none)
      memory store := by
  refine Task.wp_alone_bind (wp_redis_alone ?_)
  refine Task.wp_alone_bind (wp_redis_alone ?_)
  refine Task.wp_alone_bind (wp_redis_alone ?_)
  refine Task.wp_alone_forEach
    (fun _ (after : RedisStore) => after.text (.workerOnlineLease workerId) = none) _ ?_ ?_
  · intro agentType _ memory state kept
    refine Task.wp_alone_bind (wp_redis_alone ?_)
    exact Task.wp_alone_pure ⟨rfl, kept⟩
  · simpa [Redis.Store.exec, Redis.Store.drop] using gone

/-- What a release does to the lease of another owner, and only a token prevents it. -/
theorem release_spec (held : HeldByOther store runner holder) :
    WorkerRunner.release.wp (.alone redisServe)
      (fun outcome _ after => outcome = .ok ⟨⟩ ∧ ((Guarded runner ∧ store = after) ∨
        (¬ Guarded runner ∧ after.text (.workerOnlineLease runner.workerId) = none)))
      runner store := by
  refine Task.wp_alone_bind (Task.wp_alone_get ?_)
  by_cases guarded : Guarded runner
  · refine Task.wp_alone_bind (Task.wp_mono (releaseWorkerId_guarded held guarded) ?_)
    rintro outcome memory after - ⟨rfl, _, rfl⟩
    exact Task.wp_alone_pure ⟨rfl, Or.inl ⟨guarded, rfl⟩⟩
  · refine Task.wp_alone_bind (Task.wp_mono (releaseWorkerId_unguarded guarded) ?_)
    rintro outcome memory after - ⟨rfl, gone⟩
    refine Task.wp_mono (unregisterWorkerMembership_lease gone) ?_
    rintro outcome memory last - ⟨rfl, still⟩
    exact ⟨rfl, Or.inr ⟨guarded, still⟩⟩

end

/-- A start that fails on a taken id leaves its holder alone exactly when it does not release or
holds some token. -/
theorem failed_claim_untouched_iff (store : RedisStore) (runner : WorkerRunner) (holder : String)
    (options : WorkerRunner.StartOptions) (consume : Proc WorkerRunner PUnit)
    (starts : options.initializes = true) (timing : TimingValid runner)
    (held : HeldByOther store runner holder) :
    (WorkerRunner.start options consume).wp (.alone redisServe)
      (fun outcome _ after => outcome = .error (inUse runner.workerId) ∧
        (Untouched runner.workerId store after ↔ options.handleSignals = true ∨ Guarded runner))
      runner store := by
  refine Task.wp_withFinally ?_ trivial
  simp only [starts, ↓reduceIte]
  refine Task.wp_alone_bind (Task.wp_mono (initializeRunner_taken timing held) ?_)
  rintro outcome memory after - ⟨rfl, rfl, rfl⟩
  by_cases signals : options.handleSignals = true
  · simp only [signals, ↓reduceIte]
    exact Task.wp_alone_pure ⟨trivial, by simp [Untouched.refl]⟩
  · simp only [signals, Bool.false_eq_true, ↓reduceIte, false_or]
    refine Task.wp_mono (release_spec held) ?_
    rintro done memory after - ⟨rfl, ⟨guarded, rfl⟩ | ⟨unguarded, gone⟩⟩
    · exact ⟨trivial, by simp [Untouched.refl, guarded]⟩
    · refine ⟨trivial, fun untouched => absurd held.present ?_, fun guarded => absurd guarded unguarded⟩
      rw [← untouched.lease, gone]
      simp

/-- The worker id "worker" is leased by the token "other"; a second runner declares the same type. -/
def leasedStore : RedisStore :=
  let leased := (Redis.Store.empty.exec (.set (.workerOnlineLease "worker")
    (.presence ⟨some "other", 5, ""⟩) true (some 15) : RedisCommand)).2
  let declared := (leased.exec (.sadd (.workerDeclaredAgentTypes "worker") "agent")).2
  let joined := (declared.exec (.sadd (.agentTypeMembers "agent") "worker")).2
  (joined.exec (.sadd .knownWorkers "worker")).2

def secondRunner : WorkerRunner := .make "worker" ["agent"] none {}

theorem secondRunner_held : HeldByOther leasedStore secondRunner "other" :=
  ⟨by decide +kernel, by decide +kernel, by decide +kernel⟩

theorem secondRunner_timing : TimingValid secondRunner := by decide +kernel

/-- The holder keeps its lease when the late comer leaves its release to the signal handler. -/
theorem failed_claim_untouched_signals :
    (WorkerRunner.start { handleSignals := true } (pure ⟨⟩)).wp (.alone redisServe)
      (fun outcome _ after => outcome = .error (inUse "worker") ∧
        (Untouched "worker" leasedStore after ↔ true = true ∨ Guarded secondRunner))
      secondRunner leasedStore :=
  failed_claim_untouched_iff leasedStore secondRunner "other" { handleSignals := true } (pure ⟨⟩)
    rfl secondRunner_timing secondRunner_held

/-- With the default options it deletes the holder's lease instead. -/
theorem failed_claim_deletes : ¬ (WorkerRunner.start {} (pure ⟨⟩)).wp (.alone redisServe)
    (fun outcome _ after => outcome = .error (inUse "worker") →
      Untouched "worker" leasedStore after) secondRunner leasedStore := by
  intro leaves
  have untouched := Prog.wp_run leaves redisAnswer_serves (by decide +kernel)
  exact absurd (congrArg Option.isSome untouched.lease) (by decide +kernel)

end ByFramework
