import ByFramework.Redis.Store
import ByFramework.SweepEntry

/-!
What a shard's pruning deletes. Registrations, renewals, replies and registry writes follow one
another while one clock moves on; a score and the deadline of the caller's registry are compared.
-/

namespace ByFramework

open Async

/-- A Redis that carries out every command, read by callers that share its clock. -/
def clockServe (store : RedisStore) : (op : Op) → op.Reply → RedisStore → Prop
  | .redis command, reply, after => store.exec command = (reply, after)
  | .now, now, after => now = store.clock ∧ after = store
  | _, _, after => after = store

/-- What writes wait entries or session registries. -/
inductive WaitCall where
  | register (params : RegisterWaitParams)
  | renew (due : DueEntry)
  | reply (header : MessageHeader)
  | create (execution : ExecutionRecord)
  | save (execution : ExecutionRecord)
  | rewrite (executionId sessionId : String) (change : Int → ExecutionRecord → ExecutionRecord)
  | prune (shard : Nat)

def WaitCall.program : WaitCall → Proc Unit PUnit
  | .register params => registerWait params
  | .renew due => extendDeadline due
  | .reply header => do
      let _ ← consumeWaitEntry header
  | .create execution => initializeExecution execution
  | .save execution => saveExecution execution
  | .rewrite executionId sessionId change => changeExecution executionId sessionId change
  | .prune shard => do
      let _ ← pruneShard shard

def WaitCall.Enabled (store : RedisStore) : WaitCall → Prop
  | .renew due => (∃ shard, due.indexKey = .waitIndex shard) ∧
      (due.member, due.deadlineMs) ∈ store.scored due.indexKey
  | _ => True

inductive WaitEvent where
  | call (call : WaitCall)
  | pass (now : Int)

inductive WaitStep : RedisStore → WaitEvent → RedisStore → Prop where
  | call {call : WaitCall} {before after : RedisStore} {outcome : Except JsError PUnit × Unit}
      (enabled : call.Enabled before)
      (ends : Prog.Ends clockServe (call.program.start ()) before outcome after) :
      WaitStep before (.call call) after
  | pass {now : Int} {before : RedisStore} (later : before.clock ≤ now) :
      WaitStep before (.pass now) (before.advance now)

/-- The runs from an empty Redis whose events all meet a condition. -/
inductive WaitRun (permits : RedisStore → WaitEvent → Prop) : RedisStore → Prop where
  | start : WaitRun permits .empty
  | step {before after : RedisStore} {event : WaitEvent} (run : WaitRun permits before)
      (permitted : permits before event) (taken : WaitStep before event after) :
      WaitRun permits after

def recorded (store : RedisStore) (wait : WaitIndexMember) : Prop :=
  (store.field (.sessionRegistry wait.sessionId) (msgMapField wait.parentMessageId)).isSome = true

/-- How long after its score an entry may still see its session's registry renewed. -/
def pruneMarginMs : Int := 1000 * 86400

/-- No entry of the session whose caller is recorded, or is `mapped` now, is overdue by a day. -/
def Punctual (store : RedisStore) (sessionId : String) (mapped : Option String) : Prop :=
  ∀ held ∈ store.scored (waitIndexKey sessionId), ∀ wait, decodeMember held.1 = .ok wait →
    wait.sessionId = sessionId →
    (recorded store wait ∨ mapped = some wait.parentMessageId) →
    store.clock ≤ held.2 + pruneMarginMs

/-- A session's registry is written while its recorded waits are punctual. -/
def RegistryPunctual (store : RedisStore) : WaitEvent → Prop
  | .call (.create execution) | .call (.save execution) =>
      Punctual store execution.sessionId (some execution.messageId)
  | .call (.rewrite _ sessionId _) => Punctual store sessionId none
  | _ => True

theorem pruneAfter_eq :
    1000 * (waitPruneAfterSeconds : Int) = 1000 * defaultSessionTtl + pruneMarginMs := by
  have split : (waitPruneAfterSeconds : Int) = defaultSessionTtl + 86400 :=
    Int.natCast_add defaultSessionTtl 86400
  rw [split, Int.mul_add]
  rfl

theorem pruneMarginMs_nonneg : 0 ≤ pruneMarginMs := by decide

/-! ### The invariant -/

def PlacedIn (shard : Nat) (member : String) : Prop :=
  ∃ wait, decodeMember member = .ok wait ∧ shard = waitIndexShard wait.sessionId

/-- A recorded caller's registry goes before its waits are old enough to be pruned. -/
structure Outlived (store : RedisStore) : Prop where
  placed : ∀ shard, ∀ held ∈ store.scored (.waitIndex shard), PlacedIn shard held.1
  outlives : ∀ shard, ∀ held ∈ store.scored (.waitIndex shard), ∀ wait,
    decodeMember held.1 = .ok wait → recorded store wait →
      ∃ deadline, store.expiresAt (.sessionRegistry wait.sessionId) = some deadline ∧
        deadline ≤ held.2 + 1000 * waitPruneAfterSeconds
  bounded : ∀ sessionId, store.hash (.sessionRegistry sessionId) ≠ [] →
    ∃ deadline, store.expiresAt (.sessionRegistry sessionId) = some deadline ∧
      store.clock < deadline ∧ deadline ≤ store.clock + 1000 * defaultSessionTtl

structure SameSessions (before after : RedisStore) : Prop where
  hash : ∀ sessionId, after.hash (.sessionRegistry sessionId) =
    before.hash (.sessionRegistry sessionId)
  expiresAt : ∀ sessionId, after.expiresAt (.sessionRegistry sessionId) =
    before.expiresAt (.sessionRegistry sessionId)
  clock : after.clock = before.clock

theorem SameSessions.recorded {before after : RedisStore} (same : SameSessions before after)
    (wait : WaitIndexMember) : recorded after wait = recorded before wait := by
  simp only [ByFramework.recorded, Redis.Store.field, same.hash]

theorem Outlived.indexed {before after : RedisStore} (outlived : Outlived before)
    (same : SameSessions before after)
    (entries : ∀ shard, ∀ held ∈ after.scored (.waitIndex shard),
      held ∈ before.scored (.waitIndex shard) ∨
        (PlacedIn shard held.1 ∧ before.clock ≤ held.2)) : Outlived after := by
  constructor
  · intro shard held inside
    rcases entries shard held inside with earlier | ⟨placed, _⟩
    · exact outlived.placed shard held earlier
    · exact placed
  · intro shard held inside wait decoded known
    rw [same.expiresAt]
    rw [same.recorded] at known
    rcases entries shard held inside with earlier | ⟨_, later⟩
    · exact outlived.outlives shard held earlier wait decoded known
    · have mapped : before.hash (.sessionRegistry wait.sessionId) ≠ [] := by
        intro empty
        simp [ByFramework.recorded, Redis.Store.field, empty] at known
      obtain ⟨deadline, found, _, bound⟩ := outlived.bounded _ mapped
      refine ⟨deadline, found, ?_⟩
      have margin := pruneMarginMs_nonneg
      rw [pruneAfter_eq]
      omega
  · intro sessionId holds
    rw [same.hash] at holds
    rw [same.expiresAt, same.clock]
    exact outlived.bounded sessionId holds

theorem Outlived.advance {before : RedisStore} (outlived : Outlived before) {now : Int}
    (later : before.clock ≤ now) : Outlived (before.advance now) := by
  constructor
  · intro shard held inside
    simp only [Redis.Store.advance] at inside
    split at inside
    · simp at inside
    · exact outlived.placed shard held inside
  · intro shard held inside wait decoded known
    have kept : recorded before wait ∧ ¬ ((before.expiresAt (.sessionRegistry wait.sessionId)).any
        (decide <| · ≤ now)) = true := by
      simp only [recorded, Redis.Store.field, Redis.Store.advance] at known ⊢
      split at known
      · simp at known
      · exact ⟨known, ‹_›⟩
    have listed : held ∈ before.scored (.waitIndex shard) := by
      simp only [Redis.Store.advance] at inside
      split at inside
      · simp at inside
      · exact inside
    obtain ⟨deadline, found, bound⟩ := outlived.outlives shard held listed wait decoded kept.1
    refine ⟨deadline, ?_, bound⟩
    simp only [Redis.Store.advance]
    rw [if_neg kept.2]
    exact found
  · intro sessionId holds
    simp only [Redis.Store.advance] at holds ⊢
    split at holds
    · simp at holds
    · rename_i stays
      obtain ⟨deadline, found, _, bound⟩ := outlived.bounded sessionId holds
      rw [if_neg stays]
      have alive : now < deadline := by simpa [found] using stays
      exact ⟨deadline, found, alive, by omega⟩

theorem SameSessions.of_scored (store : RedisStore) (key : Key) (entries : List (String × Int)) :
    SameSessions store { store with scored := Function.update store.scored key entries } :=
  ⟨fun _ => rfl, fun _ => rfl, rfl⟩

theorem Outlived.zadd {store : RedisStore} (outlived : Outlived store) {shard : Nat}
    {member : String} {rank : Int} (placed : PlacedIn shard member) (later : store.clock ≤ rank) :
    Outlived (store.exec (.zadd (.waitIndex shard) member rank)).2 := by
  refine outlived.indexed (SameSessions.of_scored store _ _) ?_
  intro other held inside
  by_cases same : other = shard
  · subst same
    simp only [Redis.Store.exec, Function.update_self, Redis.mem_insertScored] at inside
    rcases inside with rfl | kept
    · exact .inr ⟨placed, later⟩
    · exact .inl (List.mem_filter.mp kept).1
  · have differ : Key.waitIndex other ≠ .waitIndex shard := by simpa using same
    simp only [Redis.Store.exec, Function.update_of_ne differ] at inside
    exact .inl inside

theorem Outlived.filter {store : RedisStore} (outlived : Outlived store) (key : Key)
    (keep : String × Int → Bool) :
    Outlived { store with
      scored := Function.update store.scored key ((store.scored key).filter keep) } := by
  refine outlived.indexed (SameSessions.of_scored store _ _) ?_
  intro shard held inside
  by_cases same : Key.waitIndex shard = key
  · subst same
    simp only [Function.update_self] at inside
    exact .inl (List.mem_filter.mp inside).1
  · simp only [Function.update_of_ne same] at inside
    exact .inl inside

theorem Outlived.drop {store : RedisStore} (outlived : Outlived store) {key : Key}
    (differ : ∀ sessionId, Key.sessionRegistry sessionId ≠ key) : Outlived (store.drop key) := by
  have same : SameSessions store (store.drop key) := by
    constructor
    · intro sessionId
      simp [Redis.Store.drop, differ]
    · intro sessionId
      simp [Redis.Store.drop, differ]
    · rfl
  refine outlived.indexed same ?_
  intro shard held inside
  by_cases indexes : Key.waitIndex shard = key
  · subst indexes
    simp [Redis.Store.drop] at inside
  · simp only [Redis.Store.drop, Function.update_of_ne indexes] at inside
    exact .inl inside

theorem Outlived.set {store : RedisStore} (outlived : Outlived store) {key : Key}
    (differ : ∀ sessionId, Key.sessionRegistry sessionId ≠ key) (value : Value)
    (ifAbsent : Bool) (ttl : Option Nat) :
    Outlived (store.exec (.set key value ifAbsent ttl)).2 := by
  simp only [Redis.Store.exec]
  split
  · exact outlived
  · refine (outlived.drop differ).indexed ⟨fun _ => rfl, ?_, rfl⟩ fun _ _ inside => .inl inside
    intro sessionId
    simp [Redis.Store.drop, differ]

theorem Outlived.write {before after : RedisStore} (outlived : Outlived before)
    {sessionId : String} {mapped : Option String} (punctual : Punctual before sessionId mapped)
    (clock : after.clock = before.clock) (scored : after.scored = before.scored)
    (renewed : after.expiresAt (.sessionRegistry sessionId) =
      some (before.deadline defaultSessionTtl))
    (others : ∀ other, other ≠ sessionId →
      after.hash (.sessionRegistry other) = before.hash (.sessionRegistry other) ∧
        after.expiresAt (.sessionRegistry other) = before.expiresAt (.sessionRegistry other))
    (maps : ∀ wait : WaitIndexMember, wait.sessionId = sessionId → recorded after wait →
      recorded before wait ∨ mapped = some wait.parentMessageId) : Outlived after := by
  constructor
  · rw [scored]
    exact outlived.placed
  · intro shard held inside wait decoded known
    rw [scored] at inside
    by_cases same : wait.sessionId = sessionId
    · obtain ⟨found, decodes, home⟩ := outlived.placed shard held inside
      rw [decoded] at decodes
      cases decodes
      rw [home, same] at inside
      have punctual := punctual held inside wait decoded same (maps wait same known)
      rw [same]
      refine ⟨_, renewed, ?_⟩
      rw [pruneAfter_eq, Redis.Store.deadline]
      omega
    · have kept := others wait.sessionId same
      rw [kept.2]
      refine outlived.outlives shard held inside wait decoded ?_
      simpa only [recorded, Redis.Store.field, kept.1] using known
  · intro other holds
    rw [clock]
    by_cases same : other = sessionId
    · subst same
      refine ⟨_, renewed, ?_, ?_⟩
      · have positive : 0 < 1000 * (defaultSessionTtl : Int) := by decide
        rw [Redis.Store.deadline]
        omega
      · rw [Redis.Store.deadline]
    · have kept := others other same
      rw [kept.1] at holds
      rw [kept.2]
      exact outlived.bounded other holds

section

variable {σ : Type} {memory : σ} {store : RedisStore}

theorem wp_redis_clock {command : RedisCommand}
    {post : Except JsError command.Reply → σ → RedisStore → Prop}
    (holds : post ((store.exec command).1.mapError redisError) memory (store.exec command).2) :
    (redis command : Proc σ _).wp (Setting.alone clockServe) post memory store :=
  wp_redis_exact (fun _ _ _ _ served => served) holds

theorem wp_dateNow_clock {post : Except JsError Int → σ → RedisStore → Prop}
    (holds : post (.ok store.clock) memory store) :
    (dateNow : Proc σ Int).wp (Setting.alone clockServe) post memory store := by
  refine Task.wp_alone_await ?_
  rintro now _ ⟨rfl, rfl⟩
  exact holds

theorem wp_pipeline_clock {commands : List RedisCommand}
    {post : Except JsError PUnit → σ → RedisStore → Prop}
    (holds : ∀ outcome, post outcome memory
      (commands.foldl (fun current command => (current.exec command).2) store)) :
    (pipeline commands : Proc σ PUnit).wp (Setting.alone clockServe) post memory store := by
  have sent : ∀ (commands : List RedisCommand) (store : RedisStore),
      (Task.forEach commands fun command => do
        let _ ← await (.redis command) : Proc σ PUnit).wp (Setting.alone clockServe)
        (fun outcome after last => outcome = .ok ⟨⟩ ∧ after = memory ∧
          last = commands.foldl (fun current command => (current.exec command).2) store)
        memory store := by
    intro commands
    induction commands with
    | nil =>
        intro store
        exact Task.wp_alone_pure ⟨rfl, rfl, rfl⟩
    | cons command rest ih =>
        intro store
        refine Task.wp_alone_bind (Task.wp_alone_bind (Task.wp_alone_await ?_))
        intro reply after served
        have same : (store.exec command).2 = after := congrArg Prod.snd served
        subst same
        exact Task.wp_alone_pure (ih _)
  refine Task.wp_alone_bind (Task.wp_mono (sent commands store) ?_)
  rintro outcome after last - ⟨rfl, rfl, rfl⟩
  refine Task.wp_alone_bind (Task.wp_alone_await ?_)
  rintro reply _ rfl
  cases reply with
  | ok value => exact Task.wp_alone_pure (holds _)
  | error error => exact Task.wp_alone_throw (holds _)

theorem registerWait_outlived (params : RegisterWaitParams) (outlived : Outlived store) :
    (registerWait params : Proc σ PUnit).wp (Setting.alone clockServe)
      (fun _ _ after => Outlived after) memory store := by
  have placed : PlacedIn (waitIndexShard params.sessionId) params.member :=
    ⟨_, decodeMember_encodeMember _, rfl⟩
  refine Task.wp_failSoft (Task.wp_alone_bind (wp_dateNow_clock ?_)) trivial
  refine Task.wp_alone_bind (wp_redis_clock ?_)
  have later : store.clock ≤ store.clock + max 0 params.timeoutMs := by omega
  have added := outlived.zadd placed later
  refine Task.wp_failSoft (Task.wp_alone_bind (wp_redis_clock ?_)) trivial
  refine Task.wp_alone_pure ?_
  rintro _ rfl - _ rfl -
  exact added.drop (by simp [consumedMarkerKey])

theorem extendDeadline_outlived {due : DueEntry} (outlived : Outlived store)
    (read : (∃ shard, due.indexKey = .waitIndex shard) ∧
      (due.member, due.deadlineMs) ∈ store.scored due.indexKey) :
    (extendDeadline due : Proc σ PUnit).wp (Setting.alone clockServe)
      (fun _ _ after => Outlived after) memory store := by
  obtain ⟨⟨shard, indexes⟩, listed⟩ := read
  rw [indexes] at listed
  have placed := outlived.placed shard _ listed
  have answered (key : Key) (value : Value) (ttl : Option Nat) :
      ∃ written, (store.exec (.set key value true ttl)).1 = .ok written := by
    simp only [Redis.Store.exec]
    split
    · exact ⟨_, rfl⟩
    · exact ⟨_, rfl⟩
  refine Task.wp_alone_bind (Task.wp_failSoft (Task.wp_alone_bind (wp_redis_clock ?_)) trivial)
  obtain ⟨written, replied⟩ := answered (.waitRenewOrigin due.entry.sessionId
    (memberDigest due.member)) (.number due.deadlineMs) (some waitRenewOriginTtlSeconds)
  rw [replied]
  refine Task.wp_alone_pure ?_
  rintro _ rfl -
  have apart (sessionId : String) : Key.sessionRegistry sessionId ≠
      .waitRenewOrigin due.entry.sessionId (memberDigest due.member) := by simp
  have origin := outlived.set apart (.number due.deadlineMs) true (some waitRenewOriginTtlSeconds)
  refine Task.wp_alone_bind (wp_dateNow_clock ?_)
  refine Task.wp_alone_bind (wp_redis_clock ?_)
  refine Task.wp_alone_pure ?_
  rw [indexes]
  exact origin.zadd placed (by simp only [waitRenewIncrementMs]; omega)

theorem tryCandidates_outlived (sessionId : String) (members : List String)
    (outlived : Outlived store) :
    (tryCandidates sessionId members : Proc σ _).wp (Setting.alone clockServe)
      (fun _ _ after => Outlived after) memory store := by
  induction members generalizing store with
  | nil => exact Task.wp_alone_pure outlived
  | cons member rest ih =>
      refine Task.wp_alone_bind (wp_redis_clock ?_)
      have removed := outlived.filter (waitIndexKey sessionId) fun entry => entry.1 ≠ member
      change ((if _ then _ else _ : Proc σ WaitGateDecision)).wp _ _ _ _
      split
      · refine Task.wp_alone_bind (Task.wp_failSoft (Task.wp_alone_bind (wp_redis_clock ?_)) trivial)
        refine Task.wp_alone_pure ?_
        rintro _ rfl -
        exact Task.wp_alone_pure (removed.set (by simp [consumedMarkerKey]) _ _ _)
      · refine Task.wp_alone_bind (wp_redis_clock ?_)
        change ((if _ then _ else _ : Proc σ WaitGateDecision)).wp _ _ _ _
        split
        · exact Task.wp_alone_pure removed
        · exact ih removed

theorem consumeWaitEntry_outlived (header : MessageHeader) (outlived : Outlived store) :
    (consumeWaitEntry header : Proc σ _).wp (Setting.alone clockServe)
      (fun _ _ after => Outlived after) memory store := by
  refine Task.wp_alone_tryCatch (Task.wp_mono (tryCandidates_outlived _ _ outlived) ?_)
  intro outcome after last _ kept
  cases outcome with
  | ok value => exact kept
  | error error => exact Task.wp_alone_pure kept

theorem pruneShard_outlived (shard : Nat) (outlived : Outlived store) :
    (pruneShard shard : Proc σ Nat).wp (Setting.alone clockServe)
      (fun _ _ after => Outlived after) memory store := by
  refine Task.wp_alone_bind (wp_dateNow_clock (wp_redis_clock ?_))
  exact outlived.filter (.waitIndex shard) _

theorem upsert_ne_nil (field : String) (value : Value) (entries : List (String × Value)) :
    Redis.upsert field value entries ≠ [] := by
  cases entries with
  | nil => simp [Redis.upsert]
  | cons entry rest =>
      simp only [Redis.upsert]
      split
      · simp
      · simp

theorem exec_expire_held {key : Key} (ttl : Nat) (held : store.hash key ≠ []) :
    (store.exec (.expire key ttl)).2 = { store with
      expiresAt := Function.update store.expiresAt key (some (store.deadline ttl)) } := by
  simp [Redis.Store.exec, Redis.Store.holds, held]

theorem Outlived.rewritten {sessionId : String} {mapped : Option String}
    (outlived : Outlived store) (punctual : Punctual store sessionId mapped)
    {entries : List (String × Value)} (some_left : entries ≠ [])
    (maps : ∀ messageId, (entries.lookup (msgMapField messageId)).isSome = true →
      ((store.hash (.sessionRegistry sessionId)).lookup (msgMapField messageId)).isSome = true ∨
        mapped = some messageId) :
    Outlived (({ store with
      hash := Function.update store.hash (.sessionRegistry sessionId) entries } :
        RedisStore).exec (.expire (.sessionRegistry sessionId) defaultSessionTtl)).2 := by
  rw [exec_expire_held _ (by simpa using some_left)]
  refine outlived.write punctual rfl rfl ?_ ?_ ?_
  · exact Function.update_self ..
  · intro other differ
    simp [differ]
  · rintro wait rfl known
    simp only [recorded, Redis.Store.field, Function.update_self] at known ⊢
    exact maps wait.parentMessageId known

theorem writeExecution_outlived {sessionId executionId : String} (record : ExecutionRecord)
    (punctual : Punctual store sessionId none) (outlived : Outlived store) :
    (writeExecution sessionId executionId record : Proc σ PUnit).wp (Setting.alone clockServe)
      (fun _ _ after => Outlived after) memory store := by
  refine wp_pipeline_clock fun _ => ?_
  refine outlived.rewritten punctual (upsert_ne_nil _ _ _) fun messageId known => .inl ?_
  have apart := execField_ne_msgMapField executionId messageId
  rw [Redis.upsertAll, List.foldl_cons, List.foldl_nil, Redis.lookup_upsert, if_neg (Ne.symm apart)] at known
  exact known

theorem writeMappedExecution_outlived (record : ExecutionRecord)
    (punctual : Punctual store record.sessionId (some record.messageId))
    (outlived : Outlived store) :
    (writeMappedExecution record : Proc σ PUnit).wp (Setting.alone clockServe)
      (fun _ _ after => Outlived after) memory store := by
  refine wp_pipeline_clock fun _ => ?_
  have twice := outlived.rewritten punctual (upsert_ne_nil (msgMapField record.messageId)
    (.text record.executionId) (Redis.upsert (execField record.executionId) (.execution record)
      (store.hash (.sessionRegistry record.sessionId)))) ?_
  · simpa [Redis.Store.exec, Redis.upsertAll] using twice
  · intro messageId known
    have apart := execField_ne_msgMapField record.executionId messageId
    rw [Redis.lookup_upsert, Redis.lookup_upsert, if_neg (Ne.symm apart)] at known
    split at known
    · rename_i same
      exact .inr (congrArg some (msgMapField_injective same).symm)
    · exact .inl known

theorem initializeExecution_outlived (execution : ExecutionRecord)
    (punctual : Punctual store execution.sessionId (some execution.messageId))
    (outlived : Outlived store) :
    (initializeExecution execution : Proc σ PUnit).wp (Setting.alone clockServe)
      (fun _ _ after => Outlived after) memory store :=
  Task.wp_alone_bind (wp_dateNow_clock (writeMappedExecution_outlived _ punctual outlived))

theorem saveExecution_outlived (execution : ExecutionRecord)
    (punctual : Punctual store execution.sessionId (some execution.messageId))
    (outlived : Outlived store) :
    (saveExecution execution : Proc σ PUnit).wp (Setting.alone clockServe)
      (fun _ _ after => Outlived after) memory store :=
  Task.wp_alone_bind (wp_dateNow_clock (writeMappedExecution_outlived _ punctual outlived))

theorem clockServe_reading {op : Op} {reply : op.Reply} {after : RedisStore}
    (reads : op.isReading = true) (served : clockServe store op reply after) : after = store := by
  unfold Op.isReading at reads
  split at reads
  · exact (congrArg Prod.snd served).symm
  · exact (congrArg Prod.snd served).symm
  · exact (congrArg Prod.snd served).symm
  · cases reads
  · exact (congrArg Prod.snd served).symm
  · exact (congrArg Prod.snd served).symm
  · exact served.2
  · exact served
  · cases reads

theorem wp_reading_clock {α : Type} {task : Proc σ α} (reads : task.Uses reading) :
    task.wp (Setting.alone clockServe) (fun _ _ after => after = store) memory store := by
  have kept : task.wp (Setting.alone clockServe) (fun _ _ after => True ∧ after = store) memory
      store := by
    refine Task.wp_of_uses ?_ ?_ reads trivial rfl
    · rintro before later holds rfl -
      exact holds
    · rintro before op rfl - quiet
      exact ⟨trivial, fun reply after served _ => ⟨trivial, clockServe_reading quiet served⟩⟩
  exact Task.wp_mono kept fun _ _ _ _ held => held.2

theorem changeExecution_outlived (executionId sessionId : String)
    (change : Int → ExecutionRecord → ExecutionRecord)
    (punctual : Punctual store sessionId none) (outlived : Outlived store) :
    (changeExecution executionId sessionId change : Proc σ PUnit).wp (Setting.alone clockServe)
      (fun _ _ after => Outlived after) memory store := by
  refine Task.wp_alone_bind (Task.wp_mono (wp_reading_clock (getExecution_reading _ _)) ?_)
  rintro outcome after _ - rfl
  cases outcome with
  | error error => exact outlived
  | ok found =>
      cases found with
      | none => exact Task.wp_alone_pure outlived
      | some current =>
          exact Task.wp_alone_bind (wp_dateNow_clock (writeExecution_outlived _ punctual outlived))

theorem resolveEntry_missing (options : SweeperOptions) (indexKey : Key) (member : String)
    (score : Int) {wait : WaitIndexMember} (decoded : decodeMember member = .ok wait)
    (unknown : ¬ recorded store wait) :
    (resolveEntry options indexKey member score : Proc σ _).wp (Setting.alone clockServe)
      (fun outcome _ _ => outcome = .ok .callerMissing) memory store := by
  have missing : (getExecutionByMessageId wait.parentMessageId wait.sessionId : Proc σ _).wp
      (Setting.alone clockServe) (fun outcome _ _ => outcome = .ok none) memory store := by
    unfold getExecutionByMessageId
    split
    · exact Task.wp_alone_pure rfl
    · refine Task.wp_alone_bind (wp_redis_clock ?_)
      have absent : store.field (.sessionRegistry wait.sessionId)
          (msgMapField wait.parentMessageId) = none := by
        simpa [recorded] using unknown
      rw [Redis.Store.field] at absent
      simp only [Redis.Store.exec, absent]
      exact Task.wp_alone_pure rfl
  unfold resolveEntry
  rw [decoded]
  refine Task.wp_alone_bind (Task.wp_mono missing ?_)
  rintro outcome after later - rfl
  exact Task.wp_alone_bind (wp_redis_clock (Task.wp_alone_pure rfl))

end

/-! ### Runs -/

theorem WaitCall.outlived {store : RedisStore} {call : WaitCall} (enabled : call.Enabled store)
    (punctual : RegistryPunctual store (.call call)) (outlived : Outlived store) :
    call.program.wp (Setting.alone clockServe) (fun _ _ after => Outlived after) () store := by
  have ends {α : Type} {task : Proc Unit α} (kept : task.wp (Setting.alone clockServe)
      (fun _ _ after => Outlived after) () store) :
      (task >>= fun _ => pure ⟨⟩ : Proc Unit PUnit).wp (Setting.alone clockServe)
        (fun _ _ after => Outlived after) () store := by
    refine Task.wp_alone_bind (Task.wp_mono kept ?_)
    intro outcome memory later _ held
    cases outcome with
    | ok value => exact Task.wp_alone_pure held
    | error error => exact held
  cases call with
  | register params => exact registerWait_outlived params outlived
  | renew due => exact extendDeadline_outlived outlived enabled
  | reply header => exact ends (consumeWaitEntry_outlived header outlived)
  | create execution => exact initializeExecution_outlived execution punctual outlived
  | save execution => exact saveExecution_outlived execution punctual outlived
  | rewrite executionId sessionId change =>
      exact changeExecution_outlived executionId sessionId change punctual outlived
  | prune shard => exact ends (pruneShard_outlived shard outlived)

theorem WaitStep.outlived {before after : RedisStore} {event : WaitEvent}
    (taken : WaitStep before event after) (punctual : RegistryPunctual before event)
    (outlived : Outlived before) : Outlived after := by
  cases taken with
  | call enabled finished =>
      exact Task.wp_ends finished (WaitCall.outlived enabled punctual outlived)
  | pass later => exact outlived.advance later

theorem WaitRun.outlived {store : RedisStore} (run : WaitRun RegistryPunctual store) :
    Outlived store := by
  induction run with
  | start => exact ⟨by simp [Redis.Store.empty], by simp [Redis.Store.empty],
      by simp [Redis.Store.empty]⟩
  | step _ permitted taken ih => exact taken.outlived permitted ih

def Prunes (store : RedisStore) (shard : Nat) (held : String × Int) : Prop :=
  held ∈ store.scored (.waitIndex shard) ∧
    ∃ after, WaitStep store (.call (.prune shard)) after ∧ held ∉ after.scored (.waitIndex shard)

theorem Prunes.overdue {store : RedisStore} {shard : Nat} {held : String × Int}
    (prunes : Prunes store shard held) :
    held.2 + 1000 * waitPruneAfterSeconds ≤ store.clock := by
  obtain ⟨inside, after, step, gone⟩ := prunes
  cases step with
  | call enabled finished =>
      by_contra recent
      have kept : (WaitCall.prune shard).program.wp (Setting.alone clockServe)
          (fun _ _ after => held ∈ after.scored (.waitIndex shard)) () store := by
        refine Task.wp_alone_bind (Task.wp_alone_bind (wp_dateNow_clock (wp_redis_clock ?_)))
        refine Task.wp_alone_pure ?_
        simp only [Redis.Store.exec, Function.update_self, List.mem_filter]
        refine ⟨inside, ?_⟩
        simp only [Bool.not_eq_true', Bool.and_eq_false_iff, decide_eq_false_iff_not]
        omega
      have still := Task.wp_ends finished kept
      exact gone still

/-- Where registries are written punctually, pruning deletes only waits whose caller is gone. -/
theorem pruned_caller_missing (store : RedisStore) (run : WaitRun RegistryPunctual store)
    (shard : Nat) (held : String × Int) (prunes : Prunes store shard held)
    (options : SweeperOptions) :
    (∃ wait, decodeMember held.1 = .ok wait ∧ ¬ recorded store wait) ∧
      ∀ outcome after, Prog.Ends clockServe
        ((resolveEntry options (.waitIndex shard) held.1 held.2 : Proc Unit _).start ()) store
        outcome after → outcome.1 = .ok .callerMissing := by
  have outlived := run.outlived
  obtain ⟨wait, decoded, _⟩ := outlived.placed shard held prunes.1
  have unknown : ¬ recorded store wait := by
    intro known
    obtain ⟨deadline, found, bound⟩ := outlived.outlives shard held prunes.1 wait decoded known
    have mapped : store.hash (.sessionRegistry wait.sessionId) ≠ [] := by
      intro empty
      simp [recorded, Redis.Store.field, empty] at known
    obtain ⟨alive, same, later, _⟩ := outlived.bounded wait.sessionId mapped
    rw [found] at same
    cases same
    have overdue := prunes.overdue
    omega
  refine ⟨⟨wait, decoded, unknown⟩, fun outcome after finished => ?_⟩
  have missing := Task.wp_ends finished
    (resolveEntry_missing options (.waitIndex shard) held.1 held.2 decoded unknown)
  exact missing

theorem redisAnswer_clocked (store : RedisStore) (op : Op) :
    clockServe store op (redisAnswer store op).1 (redisAnswer store op).2 := by
  cases op with
  | now => exact ⟨rfl, rfl⟩
  | _ => rfl

def WaitEvent.perform (store : RedisStore) : WaitEvent → RedisStore
  | .call made => (Prog.run redisAnswer (made.program.start ()) store).2
  | .pass now => store.advance now

def WaitEvent.Enabled (store : RedisStore) : WaitEvent → Prop
  | .call made => made.Enabled store
  | .pass now => store.clock ≤ now

theorem WaitEvent.steps {store : RedisStore} (event : WaitEvent) (enabled : event.Enabled store) :
    WaitStep store event (event.perform store) := by
  cases event with
  | call call => exact .call enabled (Prog.ends_run redisAnswer_clocked _ _)
  | pass now => exact .pass enabled

theorem WaitRun.performs {permits : RedisStore → WaitEvent → Prop} {store : RedisStore}
    (run : WaitRun permits store) (event : WaitEvent) (enabled : event.Enabled store)
    (permitted : permits store event) : WaitRun permits (event.perform store) :=
  run.step permitted (WaitEvent.steps event enabled)

def patientCaller : ExecutionRecord :=
  { executionId := "exec-caller"
    messageId := "msg-caller"
    sessionId := "session"
    targetAgentType := "caller"
    status := AgentState.waitingAgent }

def patientWait : RegisterWaitParams :=
  { sessionId := "session"
    parentMessageId := "msg-caller"
    childMessageId := "msg-child"
    timeoutMs := 3600000 }

def patientShard : Nat := waitIndexShard "session"

def patientEntry : String × Int := (patientWait.member, 3600000)

def patientStore : RedisStore :=
  WaitEvent.perform (WaitEvent.perform .empty (.call (.create patientCaller)))
    (.call (.register patientWait))

theorem patientStore_run (permits : RedisStore → WaitEvent → Prop)
    (created : permits .empty (.call (.create patientCaller)))
    (registered : permits (WaitEvent.perform .empty (.call (.create patientCaller)))
      (.call (.register patientWait))) : WaitRun permits patientStore := by
  have first := (@WaitRun.start permits).performs (.call (.create patientCaller))
    trivial created
  exact first.performs (.call (.register patientWait)) trivial registered

def silentStore : RedisStore := WaitEvent.perform patientStore (.pass 777600000)

theorem silentStore_prunes : Prunes silentStore patientShard patientEntry :=
  ⟨by decide +kernel, _, WaitEvent.steps (.call (.prune patientShard)) trivial,
    by decide +kernel⟩

def auditor : SweeperOptions := { workerId := "auditor", enabled := true, searchFuel := 4 }

theorem pruned_caller_missing_silent :
    (∃ wait, decodeMember patientEntry.1 = .ok wait ∧ ¬ recorded silentStore wait) ∧
      ∀ outcome after, Prog.Ends clockServe
        ((resolveEntry auditor (.waitIndex patientShard) patientEntry.1 patientEntry.2 :
          Proc Unit _).start ()) silentStore outcome after → outcome.1 = .ok .callerMissing := by
  have punctual : RegistryPunctual .empty (.call (.create patientCaller)) := by
    intro held inside
    simp [Redis.Store.empty] at inside
  have run := (patientStore_run RegistryPunctual punctual trivial).performs (.pass 777600000)
    (show patientStore.clock ≤ 777600000 by decide +kernel) trivial
  exact pruned_caller_missing silentStore run patientShard patientEntry silentStore_prunes auditor

def laterMessage : ExecutionRecord :=
  { executionId := "exec-later"
    messageId := "msg-later"
    sessionId := "session"
    targetAgentType := "caller" }

def busyStore : RedisStore :=
  WaitEvent.perform (WaitEvent.perform (WaitEvent.perform patientStore (.pass 518400000))
    (.call (.create laterMessage))) (.pass 777600000)

theorem busyStore_run : WaitRun (fun _ _ => True) busyStore := by
  have first := (patientStore_run (fun _ _ => True) trivial trivial).performs (.pass 518400000)
    (show patientStore.clock ≤ 518400000 by decide +kernel) trivial
  have second := first.performs (.call (.create laterMessage)) trivial trivial
  exact second.performs (.pass 777600000) (show _ ≤ (777600000 : Int) by decide +kernel) trivial

/-- A suspended caller that is still recorded loses its wait. -/
theorem pruned_caller_recorded :
    WaitRun (fun _ _ => True) busyStore ∧ Prunes busyStore patientShard patientEntry ∧
      (∃ wait, decodeMember patientEntry.1 = .ok wait ∧ recorded busyStore wait) ∧
      ∃ outcome after, Prog.Ends clockServe
        ((resolveEntry auditor (.waitIndex patientShard) patientEntry.1 patientEntry.2 :
          Proc Unit _).start ()) busyStore outcome after ∧ outcome.1 ≠ .ok .callerMissing := by
  have prunes : Prunes busyStore patientShard patientEntry :=
    ⟨by decide +kernel, _, WaitEvent.steps (.call (.prune patientShard)) trivial,
      by decide +kernel⟩
  refine ⟨busyStore_run, prunes, ⟨patientWait.entry, decodeMember_encodeMember _, ?_⟩, ?_⟩
  · show (busyStore.field _ _).isSome = true
    decide +kernel
  · exact ⟨_, _, Prog.ends_run redisAnswer_clocked _ _, by decide +kernel⟩

end ByFramework
