import ByFramework.Fleet
import ByFramework.RegistryCore

/-!
Who writes the presence lease of a worker id that several processes claim, each under tokens of
its own.
-/

namespace ByFramework

open Async

/-- The calls of a registry object that touch a presence lease. -/
inductive LeaseCall where
  | claim (ttlSeconds : Nat)
  | heartbeat (leaseTtlSeconds : Nat)
  | refresh (ttlSeconds : Nat)
  | release (token : Option String)
  | markInactive (token : Option String)

/-- A call that a process makes on its registry object, with what the object remembers then. -/
structure LeaseTask where
  process : String
  registry : WorkerRegistry
  call : LeaseCall

namespace LeaseTask

def program (workerId : String) (task : LeaseTask) : Prog effects Unit :=
  match task.call with
  | .claim ttlSeconds => toEnd (WorkerRegistry.claimWorkerId workerId ttlSeconds) task.registry
  | .heartbeat leaseTtlSeconds =>
      toEnd (WorkerRegistry.heartbeatWorker workerId leaseTtlSeconds) task.registry
  | .refresh ttlSeconds =>
      toEnd (WorkerRegistry.refreshWorkerIdLock workerId ttlSeconds) task.registry
  | .release token => toEnd (WorkerRegistry.releaseWorkerId workerId token) task.registry
  | .markInactive token => toEnd (WorkerRegistry.markWorkerInactive workerId token) task.registry

def expected (workerId : String) (task : LeaseTask) : Option String :=
  match task.call with
  | .release token | .markInactive token => firstTruthy token (task.registry.lockToken workerId)
  | _ => truthyText (task.registry.lockToken workerId)

/-- A process goes by no token that another one generated. -/
def OwnToken (owner : String → String) (workerId : String) (task : LeaseTask) : Prop :=
  ∀ token, task.expected workerId = some token → owner token = task.process

/-- A call that writes the lease even where it expects no token. -/
def writesAnyway (task : LeaseTask) : Bool :=
  match task.call with
  | .heartbeat _ | .markInactive _ => true
  | _ => false

def GoesByToken (workerId : String) (task : LeaseTask) : Prop :=
  task.writesAnyway = true → (task.expected workerId).isSome = true

end LeaseTask

/-- Whether a lease value carries a token that `process` generated. -/
def ownedBy (owner : String → String) (process : String) (lease : Option Value) : Bool :=
  (decodeWorkerPresence lease).token.any fun token => decide (owner token = process)

/-- The lease is absent or holds a token of `process`. -/
def LeaseOpen (owner : String → String) (workerId process : String) (store : RedisStore) : Prop :=
  store.text (.workerOnlineLease workerId) = none ∨
    ownedBy owner process (store.text (.workerOnlineLease workerId)) = true

def SameLease (workerId : String) (before after : RedisStore) : Prop :=
  after.text (.workerOnlineLease workerId) = before.text (.workerOnlineLease workerId) ∧
    after.expiresAt (.workerOnlineLease workerId) = before.expiresAt (.workerOnlineLease workerId)

def Op.writesLease (workerId : String) : Op → Bool
  | .redis (.set key _ false _) | .redis (.expire key _) | .redis (.del key) =>
      decide (key = .workerOnlineLease workerId)
  | _ => false

section

variable {ι : Type}

def leaseWorld (mayFail : RedisCommand → Prop) (workerId : String) (tasks : ι → LeaseTask) :
    World effects Fleet ι Unit :=
  programWorld mayFail fun index => (tasks index).program workerId

/-- Tokens are generated by the process that goes by them, no token by two processes. -/
def TokensDiffer (owner : String → String) (tasks : ι → LeaseTask) : Event effects ι → Prop
  | .issue index .uuid id =>
      owner (String.ofList (id.toList.filter (· ≠ '-'))) = (tasks index).process
  | _ => True

/-- A process takes an absent lease only while no call of another process is about to write it,
having found it its own. -/
def TakenUncontested (workerId : String) (tasks : ι → LeaseTask)
    (config : Config effects Fleet ι Unit) : Event effects ι → Prop
  | .issue index (.redis (.set key _ true _)) _ =>
      key = .workerOnlineLease workerId → config.state.store.holds key = false →
        ∀ other op, config.Awaits other op → op.writesLease workerId = true →
          (tasks other).process = (tasks index).process
  | _ => True

/-- A step changes a lease only where it was absent or its own process held it, so that no other
process's lease is touched. -/
structure LeaseRespected (owner : String → String) (workerId : String) (tasks : ι → LeaseTask)
    (before after : Config effects Fleet ι Unit) (index : ι) : Prop where
  writesOwn : ¬ SameLease workerId before.state.store after.state.store →
    LeaseOpen owner workerId (tasks index).process before.state.store
  sparesOthers : ∀ token,
    (decodeWorkerPresence (before.state.store.text (.workerOnlineLease workerId))).token =
      some token → owner token ≠ (tasks index).process →
        SameLease workerId before.state.store after.state.store

end

/-- What a call may do to the lease: its writes follow on a look that found it its own, and what
it sets carries a token of its own. -/
def leaseAllows (owner : String → String) (workerId process : String) (found : Bool) :
    Op → Prop
  | .redis (.get _) | .now | .uuid => True
  | .redis (.sadd key _) => key = .knownWorkers
  | .redis (.set key value ifAbsent _) => key = .workerOnlineLease workerId ∧
      ownedBy owner process (some value) = true ∧ (ifAbsent = false → found = true)
  | .redis (.expire key _) | .redis (.del key) =>
      key = .workerOnlineLease workerId ∧ found = true
  | _ => False

/-- Remember whether the call has just found the lease its own. -/
def leaseWatch (owner : String → String) (workerId : String) (task : LeaseTask) :
    Watch effects Bool where
  first := false
  note _ op reply := match op, reply with
    | .redis (.get key), .ok value =>
        decide (key = .workerOnlineLease workerId) && ownedBy owner task.process value
    | _, _ => false
  allow := leaseAllows owner workerId task.process
  expect _ op reply := match op, reply with
    | .uuid, id => owner (String.ofList (id.toList.filter (· ≠ '-'))) = task.process
    | _, _ => True

theorem leaseAllows_write {owner : String → String} {workerId process : String} {found : Bool}
    {op : Op} (allowed : leaseAllows owner workerId process found op)
    (writes : op.writesLease workerId = true) : found = true := by
  unfold Op.writesLease at writes
  split at writes
  · exact allowed.2.2 rfl
  · exact allowed.2
  · exact allowed.2
  · cases writes

section Calls

variable {owner : String → String} {workerId : String} {task : LeaseTask}
  {registry : WorkerRegistry} {found : Bool}

theorem ownedBy_presence {token : String} (own : owner token = task.process) (lastSeen : Int)
    (address : String) :
    ownedBy owner task.process (some (.presence ⟨some token, lastSeen, address⟩)) = true := by
  simpa [ownedBy, decodeWorkerPresence] using own

theorem claimWorkerId_lease (ttlSeconds : Nat) :
    (WorkerRegistry.claimWorkerId workerId ttlSeconds).wp (leaseWatch owner workerId task).setting
      (fun _ _ _ => True) registry found := by
  refine Task.wp_alone_bind (Task.wp_alone_get ?_)
  refine Task.wp_alone_bind (Task.wp_alone_bind (wp_await_watched trivial fun id own => ?_))
  refine Task.wp_alone_pure ?_
  refine Task.wp_alone_bind (wp_redis_watched ⟨rfl, ownedBy_presence own _ _, nofun⟩ ?_)
  rintro (message | ok) -
  · trivial
  · dsimp only [Except.mapError]
    split
    · exact Task.wp_alone_bind (Task.wp_alone_throw trivial)
    · refine Task.wp_alone_bind (Task.wp_alone_modify ?_)
      refine Task.wp_alone_bind (wp_redis_watched rfl ?_)
      rintro (message | added) -
      · trivial
      · exact Task.wp_alone_pure trivial

theorem note_own (found : Bool) (workerId : String) {lease : Option Value} {token : String}
    (held : (decodeWorkerPresence lease).token = some token) (own : owner token = task.process) :
    (leaseWatch owner workerId task).note found (.redis (.get (.workerOnlineLease workerId)))
      (.ok lease) = true := by
  simpa [leaseWatch, ownedBy, held] using own

theorem heartbeatWorker_lease {token : String} (leaseTtlSeconds : Nat)
    (goes : truthyText (registry.lockToken workerId) = some token)
    (own : owner token = task.process) :
    (WorkerRegistry.heartbeatWorker workerId leaseTtlSeconds).wp
      (leaseWatch owner workerId task).setting (fun _ _ _ => True) registry found := by
  refine Task.wp_alone_bind (wp_await_watched trivial fun now _ => ?_)
  refine Task.wp_alone_bind (Task.wp_alone_get ?_)
  refine Task.wp_alone_bind (wp_redis_watched trivial ?_)
  rintro (message | current) -
  · trivial
  have member (ok : Bool) (seen : Bool) :
      (if (!ok) = true then pure false else do
        let _ ← redis (.sadd .knownWorkers workerId)
        pure true : Proc WorkerRegistry Bool).wp (leaseWatch owner workerId task).setting
          (fun _ _ _ => True) registry seen := by
    split
    · exact Task.wp_alone_pure trivial
    · refine Task.wp_alone_bind (wp_redis_watched rfl ?_)
      rintro (message | added) -
      · trivial
      · exact Task.wp_alone_pure trivial
  simp only [Except.mapError, goes]
  split
  · refine Task.wp_alone_bind (wp_redis_watched ⟨rfl, ownedBy_presence own _ _, nofun⟩ ?_)
    rintro (message | ok) -
    · trivial
    · exact member ok _
  · split
    · exact Task.wp_alone_bind (Task.wp_alone_pure (member false _))
    · rename_i held
      have seen := note_own found workerId (not_not.mp held) own
      refine Task.wp_alone_bind (wp_redis_watched
        ⟨rfl, ownedBy_presence own _ _, fun _ => seen⟩ ?_)
      rintro (message | ok) -
      · trivial
      · exact member ok _

theorem refreshWorkerIdLock_lease (ttlSeconds : Nat)
    (own : ∀ token, truthyText (registry.lockToken workerId) = some token →
      owner token = task.process) :
    (WorkerRegistry.refreshWorkerIdLock workerId ttlSeconds).wp
      (leaseWatch owner workerId task).setting (fun _ _ _ => True) registry found := by
  refine Task.wp_alone_bind (Task.wp_alone_get ?_)
  dsimp only
  split
  · exact Task.wp_alone_pure trivial
  · rename_i token goes
    refine Task.wp_alone_bind (wp_redis_watched trivial ?_)
    rintro (message | current) -
    · trivial
    · dsimp only [Except.mapError]
      split
      · exact Task.wp_alone_pure trivial
      · rename_i held
        have seen := note_own found workerId (not_not.mp held)
          (own token goes)
        exact wp_redis_watched ⟨rfl, seen⟩ fun _ _ => trivial

theorem releaseWorkerId_lease (token : Option String)
    (own : ∀ expected, firstTruthy token (registry.lockToken workerId) = some expected →
      owner expected = task.process) :
    (WorkerRegistry.releaseWorkerId workerId token).wp
      (leaseWatch owner workerId task).setting (fun _ _ _ => True) registry found := by
  refine Task.wp_alone_bind (Task.wp_alone_get ?_)
  dsimp only
  split
  · exact Task.wp_alone_pure trivial
  · rename_i expected goes
    refine Task.wp_alone_bind (wp_redis_watched trivial ?_)
    rintro (message | current) -
    · trivial
    · dsimp only [Except.mapError]
      split
      · exact Task.wp_alone_pure trivial
      · rename_i held
        have seen := note_own found workerId (not_not.mp held)
          (own expected goes)
        refine Task.wp_alone_bind (wp_redis_watched ⟨rfl, seen⟩ ?_)
        rintro (message | deleted) -
        · trivial
        · refine Task.wp_alone_bind (Task.wp_alone_modify ?_)
          exact Task.wp_alone_pure trivial

theorem markWorkerInactive_lease {expected : String} (token : Option String)
    (goes : firstTruthy token (registry.lockToken workerId) = some expected)
    (own : owner expected = task.process) :
    (WorkerRegistry.markWorkerInactive workerId token).wp
      (leaseWatch owner workerId task).setting (fun _ _ _ => True) registry found := by
  refine Task.wp_alone_bind (Task.wp_alone_get ?_)
  refine Task.wp_alone_bind (wp_redis_watched trivial ?_)
  rintro (message | current) -
  · trivial
  · simp only [Except.mapError, goes, Option.isSome_some, true_and]
    split
    · exact Task.wp_alone_pure trivial
    · rename_i held
      have seen := note_own found workerId (not_not.mp held) own
      refine Task.wp_alone_bind (wp_redis_watched ⟨rfl, seen⟩ ?_)
      rintro (message | deleted) -
      · trivial
      · exact Task.wp_alone_pure trivial

theorem LeaseTask.program_lease (own : task.OwnToken owner workerId)
    (goes : task.GoesByToken workerId) :
    (task.program workerId).wp (leaseWatch owner workerId task).setting (fun _ _ => True)
      (leaseWatch owner workerId task).first := by
  obtain ⟨process, registry, call⟩ := task
  cases call with
  | claim ttlSeconds => exact wp_toEnd (claimWorkerId_lease ttlSeconds)
  | heartbeat leaseTtlSeconds =>
      obtain ⟨token, expects⟩ := Option.isSome_iff_exists.mp (goes rfl)
      exact wp_toEnd (heartbeatWorker_lease leaseTtlSeconds expects (own token expects))
  | refresh ttlSeconds => exact wp_toEnd (refreshWorkerIdLock_lease ttlSeconds own)
  | release token => exact wp_toEnd (releaseWorkerId_lease token own)
  | markInactive token =>
      obtain ⟨expected, expects⟩ := Option.isSome_iff_exists.mp (goes rfl)
      exact wp_toEnd (markWorkerInactive_lease token expects (own expected expects))

end Calls

section Commands

variable {owner : String → String} {workerId process : String} {found : Bool}
  {command : RedisCommand} {store : RedisStore}

theorem SameLease.refl (workerId : String) (store : RedisStore) :
    SameLease workerId store store := ⟨rfl, rfl⟩

theorem LeaseOpen.same {after : RedisStore} (unclaimed : LeaseOpen owner workerId process store)
    (same : SameLease workerId store after) : LeaseOpen owner workerId process after := by
  unfold LeaseOpen at *
  rw [same.1]
  exact unclaimed

theorem LeaseOpen.exec (allowed : leaseAllows owner workerId process found (.redis command))
    (unclaimed : LeaseOpen owner workerId process store) :
    LeaseOpen owner workerId process (store.exec command).2 := by
  cases command with
  | get key => exact unclaimed
  | sadd key member =>
      simp only [Redis.Store.exec]
      split
      · exact unclaimed
      · exact unclaimed
  | set key value ifAbsent ttl =>
      obtain ⟨rfl, own, -⟩ := allowed
      simp only [Redis.Store.exec]
      split
      · exact unclaimed
      · refine .inr ?_
        simpa using own
  | expire key ttl =>
      simp only [Redis.Store.exec]
      split
      · exact unclaimed
      · exact unclaimed
  | del key =>
      obtain ⟨rfl, -⟩ := allowed
      refine .inl ?_
      simp [Redis.Store.exec, Redis.Store.drop]
  | _ => exact allowed.elim

theorem sameLease_exec (allowed : leaseAllows owner workerId process found (.redis command))
    (spares : Op.writesLease workerId (.redis command) = false)
    (taken : ∀ key value ttl, command = .set key value true ttl → store.holds key = true) :
    SameLease workerId store (store.exec command).2 := by
  cases command with
  | get key => exact .refl workerId store
  | sadd key member =>
      simp only [Redis.Store.exec]
      split
      · exact .refl workerId store
      · exact ⟨rfl, rfl⟩
  | set key value ifAbsent ttl =>
      obtain ⟨rfl, -, -⟩ := allowed
      cases ifAbsent with
      | true =>
          have held := taken _ _ _ rfl
          simp only [Redis.Store.exec, held, Bool.and_self, ↓reduceIte]
          exact .refl workerId store
      | false => simp [Op.writesLease] at spares
  | expire key ttl => simp [Op.writesLease, allowed.1] at spares
  | del key => simp [Op.writesLease, allowed.1] at spares
  | _ => exact allowed.elim

theorem text_of_not_holds {key : Key} (absent : store.holds key = false) :
    store.text key = none := by
  unfold Redis.Store.holds at absent
  cases found : store.text key with
  | none => rfl
  | some value => simp [found] at absent

theorem LeaseOpen.owned {other : String} {token : String}
    (held : (decodeWorkerPresence (store.text (.workerOnlineLease workerId))).token = some token)
    (unclaimed : LeaseOpen owner workerId other store) : owner token = other := by
  rcases unclaimed with absent | own
  · rw [absent] at held
    cases held
  · simpa [ownedBy, held] using own

end Commands

section Runs

variable {ι : Type} [DecidableEq ι] {owner : String → String} {workerId : String}
  {tasks : ι → LeaseTask} {mayFail : RedisCommand → Prop}

/-- Whoever is about to write the lease may do so, and belongs to one process. -/
structure LeaseInv (owner : String → String) (workerId : String) (tasks : ι → LeaseTask)
    (config : Config effects Fleet ι Unit) : Prop where
  unclaimed : ∀ index op, config.Awaits index op → op.writesLease workerId = true →
    LeaseOpen owner workerId (tasks index).process config.state.store
  alike : ∀ left right leftOp rightOp, config.Awaits left leftOp → config.Awaits right rightOp →
    leftOp.writesLease workerId = true → rightOp.writesLease workerId = true →
      (tasks left).process = (tasks right).process

def leaseWatches (owner : String → String) (workerId : String) (tasks : ι → LeaseTask)
    (index : ι) : Watch effects Bool := leaseWatch owner workerId (tasks index)

abbrev LeasesWatched (owner : String → String) (workerId : String) (tasks : ι → LeaseTask)
    (past : List (Event effects ι)) (config : Config effects Fleet ι Unit) : Prop :=
  Watched (leaseWatches owner workerId tasks) (fun _ _ _ => True) past config

theorem found_own {task : LeaseTask} {found : Bool} {op : Op} {reply : op.Reply}
    {before after : Fleet} (served : Fleet.serve mayFail before op reply after)
    (seen : (leaseWatch owner workerId task).note found op reply = true) :
    after.store = before.store ∧ ∃ token,
      (decodeWorkerPresence (before.store.text (.workerOnlineLease workerId))).token =
        some token ∧ owner token = task.process := by
  simp only [leaseWatch] at seen
  split at seen
  · rename_i key value
    simp only [Bool.and_eq_true, decide_eq_true_eq, ownedBy, Option.any_eq_true_iff_get] at seen
    obtain ⟨rfl, present, own⟩ := seen
    have done := Fleet.serve_ok served
    simp only [Redis.Store.exec, Prod.mk.injEq, Except.ok.injEq] at done
    obtain ⟨rfl, same⟩ := done
    exact ⟨same.symm, _, (Option.some_get present).symm, own⟩
  · cases seen

omit [DecidableEq ι] in
theorem LeaseOpen.step {found : Bool} {index other : ι} {op : Op} {reply : op.Reply}
    {before after : Config effects Fleet ι Unit}
    (allowed : leaseAllows owner workerId (tasks index).process found op)
    (served : Fleet.serve mayFail before.state op reply after.state)
    (taken : TakenUncontested workerId tasks before (.issue index op reply))
    (alike : op.writesLease workerId = true → (tasks other).process = (tasks index).process)
    {next : Op} (awaits : before.Awaits other next) (writes : next.writesLease workerId = true)
    (unclaimed : LeaseOpen owner workerId (tasks other).process before.state.store) :
    LeaseOpen owner workerId (tasks other).process after.state.store := by
  cases op with
  | redis command =>
      refine Fleet.serve_store (LeaseOpen owner workerId (tasks other).process) served unclaimed ?_
      by_cases same : (tasks other).process = (tasks index).process
      · rw [same] at unclaimed ⊢
        exact unclaimed.exec allowed
      · refine unclaimed.same (sameLease_exec allowed ?_ ?_)
        · exact Bool.eq_false_iff.mpr fun written => same (alike written)
        · rintro key value ttl rfl
          by_contra free
          have absent := Bool.eq_false_iff.mpr free
          exact same (taken allowed.1 absent other next awaits writes)
  | _ =>
      have unchanged : after.state.store = before.state.store := by
        refine Fleet.serve_other served ?_
        intro command same
        cases same
      rw [unchanged]
      exact unclaimed

theorem LeaseInv.issue {past : List (Event effects ι)}
    {before after : Config effects Fleet ι Unit} {index : ι} {op : Op} {reply : op.Reply}
    (inv : LeaseInv owner workerId tasks before)
    (watched : LeasesWatched owner workerId tasks past before)
    (later : LeasesWatched owner workerId tasks (past ++ [.issue index op reply]) after)
    (taken : TakenUncontested workerId tasks before (.issue index op reply))
    (step : Step (leaseWorld mayFail workerId tasks) before (.issue index op reply) after) :
    LeaseInv owner workerId tasks after := by
  have allowed := watched.allows step
  have served : Fleet.serve mayFail before.state op reply after.state := by
    cases step with
    | issue found served => exact served
  have awaited : before.Awaits index op := by
    cases step with
    | issue found served => exact ⟨_, found⟩
  have elsewhere {other : ι} {next : Op} (awaits : after.Awaits other next)
      (different : other ≠ index) : before.Awaits other next :=
    step.awaits awaits fun same => different (Option.some.inj same).symm
  -- a call that has come to its write has just found the lease its own
  have looked {next : Op} (awaits : after.Awaits index next)
      (writes : next.writesLease workerId = true) := by
    have seen := leaseAllows_write (later.awaits awaits) writes
    rw [Watch.memo_issue] at seen
    exact found_own served seen
  have joins {next : Op} {other : ι} {otherOp : Op} (awaits : after.Awaits index next)
      (writes : next.writesLease workerId = true) (waits : before.Awaits other otherOp)
      (writesToo : otherOp.writesLease workerId = true) :
      (tasks index).process = (tasks other).process := by
    obtain ⟨-, token, held, own⟩ := looked awaits writes
    rw [← own]
    exact (inv.unclaimed other otherOp waits writesToo).owned held
  constructor
  · intro other next awaits writes
    by_cases same : other = index
    · subst same
      obtain ⟨unchanged, token, held, own⟩ := looked awaits writes
      rw [unchanged]
      exact .inr (by simpa [ownedBy, held] using own)
    · have waits := elsewhere awaits same
      refine LeaseOpen.step allowed served taken ?_ waits writes
        (inv.unclaimed other next waits writes)
      intro written
      exact inv.alike other index next op waits awaited writes written
  · intro left right leftOp rightOp awaitsLeft awaitsRight writesLeft writesRight
    by_cases atLeft : left = index
    · by_cases atRight : right = index
      · rw [atLeft, atRight]
      · subst atLeft
        exact joins awaitsLeft writesLeft (elsewhere awaitsRight atRight) writesRight
    · have waits := elsewhere awaitsLeft atLeft
      by_cases atRight : right = index
      · subst atRight
        exact (joins awaitsRight writesRight waits writesLeft).symm
      · exact inv.alike left right leftOp rightOp waits (elsewhere awaitsRight atRight) writesLeft
          writesRight

omit [DecidableEq ι] in
theorem LeaseInv.aside {before after : Config effects Fleet ι Unit}
    (inv : LeaseInv owner workerId tasks before)
    (still : ∀ index op, after.Awaits index op → op.writesLease workerId = true →
      before.Awaits index op)
    (kept : ∀ process, LeaseOpen owner workerId process before.state.store →
      LeaseOpen owner workerId process after.state.store) :
    LeaseInv owner workerId tasks after := by
  constructor
  · intro index op awaits writes
    exact kept _ (inv.unclaimed index op (still index op awaits writes) writes)
  · intro left right leftOp rightOp awaitsLeft awaitsRight writesLeft writesRight
    exact inv.alike left right leftOp rightOp (still left leftOp awaitsLeft writesLeft)
      (still right rightOp awaitsRight writesRight) writesLeft writesRight

theorem LeaseOpen.lapse {process : String} {before after : Fleet}
    (unclaimed : LeaseOpen owner workerId process before.store) (lapsed : before.Lapse after) :
    LeaseOpen owner workerId process after.store := by
  cases lapsed with
  | time now later =>
      unfold LeaseOpen at *
      simp only [Redis.Store.advance]
      split
      · exact .inl rfl
      · exact unclaimed
  | restart workerId => exact unclaimed

theorem leases_watched {first last : Config effects Fleet ι Unit} {events : List (Event effects ι)}
    (own : ∀ index, (tasks index).OwnToken owner workerId)
    (goes : ∀ index, (tasks index).GoesByToken workerId)
    (idle : ∀ index, first.task index = none)
    (runs : Runs (leaseWorld mayFail workerId tasks) (fun config event =>
      TokensDiffer owner tasks event ∧ TakenUncontested workerId tasks config event)
      first events last) :
    LeasesWatched owner workerId tasks events last ∧ LeaseInv owner workerId tasks last := by
  refine Runs.watched (fun _ config => LeaseInv owner workerId tasks config) runs
    (show Meets (fun _ _ => True) events from fun _ _ _ _ => trivial) idle ?_ ?_ ?_ ?_
  · have nothing (index : ι) (op : Op) : ¬ first.Awaits index op := by
      rintro ⟨resume, found⟩
      rw [idle index] at found
      cases found
    exact ⟨fun index op awaits => (nothing index op awaits).elim,
      fun left _ leftOp _ awaits => (nothing left leftOp awaits).elim⟩
  · rintro state index program after ⟨rfl, -⟩
    exact (tasks index).program_lease (own index) (goes index)
  · rintro past before index op reply after - - ⟨tokens, -⟩ - -
    cases op with
    | uuid => exact tokens
    | _ => exact trivial
  · rintro past before event after watched inv ⟨-, taken⟩ - step later
    cases event with
    | issue index op reply => exact inv.issue watched later taken step
    | start index =>
        refine inv.aside ?_ ?_
        · intro other op awaits writes
          refine step.awaits awaits fun same => ?_
          obtain rfl := Option.some.inj same
          have permitted := later.awaits awaits
          rw [Watch.memo_start] at permitted
          cases leaseAllows_write permitted writes
        · intro process unclaimed
          cases step with
          | start free started =>
              rw [started.2]
              exact unclaimed
    | stop index =>
        refine inv.aside ?_ ?_
        · intro other op awaits writes
          refine step.awaits awaits fun same => ?_
          obtain rfl := Option.some.inj same
          cases step with
          | stop found stopped =>
              obtain ⟨resume, still⟩ := awaits
              simp at still
        · intro process unclaimed
          cases step with
          | stop found stopped =>
              rw [show _ = _ from stopped]
              exact unclaimed
    | lapse =>
        refine inv.aside ?_ ?_
        · intro other op awaits writes
          exact step.awaits awaits nofun
        · intro process unclaimed
          cases step with
          | lapse lapsed => exact unclaimed.lapse lapsed

/-- While nobody takes an absent lease that another process is about to write, and every call that
writes one regardless goes by a token, no call touches a lease that is another process's. -/
theorem lease_respected_uncontested (own : ∀ index, (tasks index).OwnToken owner workerId)
    (goes : ∀ index, (tasks index).GoesByToken workerId)
    {first before after : Config effects Fleet ι Unit} {events : List (Event effects ι)}
    (idle : ∀ index, first.task index = none)
    (runs : Runs (leaseWorld mayFail workerId tasks) (fun config event =>
      TokensDiffer owner tasks event ∧ TakenUncontested workerId tasks config event)
      first events before)
    {index : ι} {op : Op} {reply : op.Reply}
    (step : Step (leaseWorld mayFail workerId tasks) before (.issue index op reply) after) :
    LeaseRespected owner workerId tasks before after index := by
  obtain ⟨watched, inv⟩ := leases_watched own goes idle runs
  have allowed := watched.allows step
  have served : Fleet.serve mayFail before.state op reply after.state := by
    cases step with
    | issue found served => exact served
  have awaited : before.Awaits index op := by
    cases step with
    | issue found served => exact ⟨_, found⟩
  have writesOwn (touched : ¬ SameLease workerId before.state.store after.state.store) :
      LeaseOpen owner workerId (tasks index).process before.state.store := by
    by_cases writes : op.writesLease workerId = true
    · exact inv.unclaimed index op awaited writes
    · cases op with
      | redis command =>
          by_contra claimed
          refine touched (Fleet.serve_store (SameLease workerId before.state.store) served
            (.refl _ _) ?_)
          refine sameLease_exec allowed (Bool.eq_false_iff.mpr writes) ?_
          rintro key value ttl rfl
          by_contra free
          obtain ⟨rfl, -, -⟩ := allowed
          exact claimed (.inl (text_of_not_holds (Bool.eq_false_iff.mpr free)))
      | _ =>
          have unchanged : after.state.store = before.state.store := by
            refine Fleet.serve_other served ?_
            intro command same
            cases same
          rw [unchanged] at touched
          exact (touched (.refl _ _)).elim
  refine ⟨writesOwn, fun token held other => ?_⟩
  by_contra touched
  exact other ((writesOwn touched).owned held)

end Runs

section Rivals

/-- Ids are made at the time they are named after; the left process makes the first. -/
def firstIsLeft (token : String) : String := if token = "0" then "left" else "right"

def leftToken : WorkerRegistry := { lockTokens := [("twin", "0")] }

def rightToken : WorkerRegistry := { lockTokens := [("twin", "60000")] }

def rivals : Fin 5 → LeaseTask
  | 0 => ⟨"left", {}, .claim 60⟩
  | 1 => ⟨"left", leftToken, .heartbeat 15⟩
  | 2 => ⟨"left", leftToken, .release none⟩
  | 3 => ⟨"right", {}, .claim 60⟩
  | 4 => ⟨"right", rightToken, .heartbeat 15⟩

theorem rivals_own (index : Fin 5) : (rivals index).OwnToken firstIsLeft "twin" := by
  intro token expects
  have all : ∀ index : Fin 5, ((rivals index).expected "twin").all (fun token =>
      decide (firstIsLeft token = (rivals index).process)) = true := by decide +kernel
  simpa [expects] using all index

theorem rivals_go (index : Fin 5) : (rivals index).GoesByToken "twin" := by
  have all : ∀ index : Fin 5, (rivals index).writesAnyway = true →
      ((rivals index).expected "twin").isSome = true := by decide +kernel
  exact all index

/-- Whether a step is one that `TokensDiffer` lets pass. -/
def tokensDiffer (owner : String → String) (tasks : Fin 5 → LeaseTask)
    (_ : Config effects Fleet (Fin 5) Unit) : Event effects (Fin 5) → Bool
  | .issue index .uuid id =>
      decide (owner (String.ofList (id.toList.filter (· ≠ '-'))) = (tasks index).process)
  | _ => true

theorem tokensDiffer_sound (owner : String → String) (tasks : Fin 5 → LeaseTask)
    (config : Config effects Fleet (Fin 5) Unit) (event : Event effects (Fin 5))
    (differ : tokensDiffer owner tasks config event = true) : TokensDiffer owner tasks event := by
  unfold TokensDiffer
  split
  · have own := of_decide_eq_true differ
    exact own
  · trivial

/-- Whether a step is one that `TakenUncontested` lets pass. -/
def takenUncontested (workerId : String) (tasks : Fin 5 → LeaseTask)
    (config : Config effects Fleet (Fin 5) Unit) : Event effects (Fin 5) → Bool
  | .issue index (.redis (.set key _ true _)) _ =>
      !decide (key = .workerOnlineLease workerId) || config.state.store.holds key ||
        (List.finRange 5).all fun other => match config.task other with
          | some (.call op _) => !op.writesLease workerId ||
              decide ((tasks other).process = (tasks index).process)
          | _ => true
  | _ => true

theorem takenUncontested_sound (workerId : String) (tasks : Fin 5 → LeaseTask)
    (config : Config effects Fleet (Fin 5) Unit) (event : Event effects (Fin 5))
    (settled : takenUncontested workerId tasks config event = true) :
    TakenUncontested workerId tasks config event := by
  unfold TakenUncontested
  split
  · rename_i index key value ttl reply
    rintro rfl free other op ⟨resume, found⟩ writes
    simp only [takenUncontested, decide_true, Bool.not_true, Bool.false_or, free,
      List.all_eq_true] at settled
    have each := settled other (List.mem_finRange other)
    simpa [found, writes] using each
  · trivial

def settledLease (config : Config effects Fleet (Fin 5) Unit) (event : Event effects (Fin 5)) :
    Bool :=
  tokensDiffer firstIsLeft rivals config event && takenUncontested "twin" rivals config event

theorem settledLease_sound (config : Config effects Fleet (Fin 5) Unit)
    (event : Event effects (Fin 5)) (settled : settledLease config event = true) :
    TokensDiffer firstIsLeft rivals event ∧ TakenUncontested "twin" rivals config event := by
  obtain ⟨differ, uncontested⟩ := Bool.and_eq_true_iff.mp settled
  exact ⟨tokensDiffer_sound _ _ config event differ, takenUncontested_sound _ _ _ _ uncontested⟩

def rivalsPlayer : Player effects Fleet (Fin 5) Unit Int :=
  programPlayer fun index => (rivals index).program "twin"

theorem rivals_plays :
    rivalsPlayer.Plays (leaseWorld (fun _ => False) "twin" rivals) :=
  programPlayer_plays _ _

def rivalsPlay (moves : List (Move (Fin 5) Int)) :
    List (Event effects (Fin 5)) × Config effects Fleet (Fin 5) Unit :=
  rivalsPlayer.play ⟨Fleet.fresh, fun _ => none⟩ moves

/-- The left process claims, renews and lets go; then the right one claims and begins to renew. -/
def handedOnMoves : List (Move (Fin 5) Int) :=
  Move.turn 0 3 ++ Move.turn 1 4 ++ Move.turn 2 2 ++ [.pass 60000] ++ Move.turn 3 3 ++
    Move.turn 4 2

theorem lease_respected_handed_on :
    LeaseRespected firstIsLeft "twin" rivals (rivalsPlay handedOnMoves).2
      (rivalsPlayer.after (rivalsPlay handedOnMoves).2 (.go 4)) 4 := by
  have goes : (rivalsPlayer.move (rivalsPlay handedOnMoves).2 (.go 4)).isSome = true := by
    decide +kernel
  obtain ⟨op, reply, step⟩ := rivals_plays.goes goes
  have minds : rivalsPlayer.minds settledLease ⟨Fleet.fresh, fun _ => none⟩ handedOnMoves =
      true := by decide +kernel
  exact lease_respected_uncontested rivals_own rivals_go (fun _ => rfl)
    (rivals_plays.runs_minding settledLease_sound _ handedOnMoves minds) step

def leaseToken (config : Config effects Fleet (Fin 5) Unit) : Option String :=
  (decodeWorkerPresence (config.state.store.text (.workerOnlineLease "twin"))).token

theorem not_respected {before after : Config effects Fleet (Fin 5) Unit} {index : Fin 5}
    {token : String} (held : leaseToken before = some token)
    (other : firstIsLeft token ≠ (rivals index).process) (changed : leaseToken after ≠ some token) :
    ¬ LeaseRespected firstIsLeft "twin" rivals before after index := by
  intro respected
  have same := respected.sparesOthers token held other
  unfold leaseToken at changed
  rw [same.1] at changed
  exact changed held

def lateRenewalMoves : List (Move (Fin 5) Int) :=
  Move.turn 0 3 ++ Move.turn 1 2 ++ [.pass 60000] ++ Move.turn 3 3

def lateReleaseMoves : List (Move (Fin 5) Int) :=
  Move.turn 0 3 ++ Move.turn 2 1 ++ [.pass 60000] ++ Move.turn 3 3

/-- The right process's lease is overwritten in one run and deleted in the other. -/
theorem live_lease_displaced :
    (∀ index, (rivals index).OwnToken firstIsLeft "twin") ∧
    (∃ events before op reply after,
      Runs (leaseWorld (fun _ => False) "twin" rivals)
        (fun _ event => TokensDiffer firstIsLeft rivals event) ⟨Fleet.fresh, fun _ => none⟩ events
        before ∧
      Step (leaseWorld (fun _ => False) "twin" rivals) before (.issue 1 op reply) after ∧
      ¬ LeaseRespected firstIsLeft "twin" rivals before after 1) ∧
    ∃ events before op reply after,
      Runs (leaseWorld (fun _ => False) "twin" rivals)
        (fun _ event => TokensDiffer firstIsLeft rivals event) ⟨Fleet.fresh, fun _ => none⟩ events
        before ∧
      Step (leaseWorld (fun _ => False) "twin" rivals) before (.issue 2 op reply) after ∧
      ¬ LeaseRespected firstIsLeft "twin" rivals before after 2 := by
  refine ⟨rivals_own, ?_, ?_⟩
  · have goes : (rivalsPlayer.move (rivalsPlay lateRenewalMoves).2 (.go 1)).isSome = true := by
      decide +kernel
    obtain ⟨op, reply, step⟩ := rivals_plays.goes goes
    have minds : rivalsPlayer.minds (tokensDiffer firstIsLeft rivals)
        ⟨Fleet.fresh, fun _ => none⟩ lateRenewalMoves = true := by decide +kernel
    have runs := rivals_plays.runs_minding (tokensDiffer_sound firstIsLeft rivals) _ _ minds
    have held : leaseToken (rivalsPlay lateRenewalMoves).2 = some "60000" := by decide +kernel
    refine ⟨_, _, op, reply, _, runs, step, not_respected held (by decide +kernel) ?_⟩
    decide +kernel
  · have goes : (rivalsPlayer.move (rivalsPlay lateReleaseMoves).2 (.go 2)).isSome = true := by
      decide +kernel
    obtain ⟨op, reply, step⟩ := rivals_plays.goes goes
    have minds : rivalsPlayer.minds (tokensDiffer firstIsLeft rivals)
        ⟨Fleet.fresh, fun _ => none⟩ lateReleaseMoves = true := by decide +kernel
    have runs := rivals_plays.runs_minding (tokensDiffer_sound firstIsLeft rivals) _ _ minds
    have held : leaseToken (rivalsPlay lateReleaseMoves).2 = some "60000" := by decide +kernel
    refine ⟨_, _, op, reply, _, runs, step, not_respected held (by decide +kernel) ?_⟩
    decide +kernel

end Rivals

end ByFramework
