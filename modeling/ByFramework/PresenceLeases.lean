import ByFramework.Async.Accord
import ByFramework.LeaseOwnership
import ByFramework.Redis.Lease

/-!
Presence leases as a way to tell which workers are alive: a lease that is renewed in time is always
found, and one lease time after a worker's process died no look finds its lease any more, however
other workers claim, renew and release theirs.
-/

namespace ByFramework

open Async

def Key.isLease : Key → Bool
  | .workerOnlineLease _ => true
  | _ => false

def Op.sparesLeases : Op → Bool
  | .redis command => command.keeps Key.isLease
  | _ => true

def unleasing : Contract effects := .only fun op => op.sparesLeases = true

/-- The calls that keep presence leases, made for any workers, and whatever leaves leases alone. -/
inductive PresenceTask where
  | lease (workerId : String) (task : LeaseTask)
  | other (program : Prog effects Unit) (spares : program.Uses unleasing)

def LeaseCall.ttlSeconds : LeaseCall → Nat
  | .claim ttlSeconds | .heartbeat ttlSeconds | .refresh ttlSeconds => ttlSeconds
  | .release _ | .markInactive _ => 0

def LeaseCall.ends : LeaseCall → Bool
  | .release _ | .markInactive _ => true
  | _ => false

namespace PresenceTask

def program : PresenceTask → Prog effects Unit
  | .lease workerId task => task.program workerId
  | .other program _ => program

def ttlSeconds : PresenceTask → Nat
  | .lease _ task => task.call.ttlSeconds
  | .other _ _ => 0

def IsFor (workerId : String) : PresenceTask → Prop
  | .lease named _ => named = workerId
  | .other _ _ => False

/-- A call that gives the worker's lease up, or less time than the given one. -/
def Ends (workerId : String) (ttl : Nat) : PresenceTask → Prop
  | .lease named task =>
      named = workerId ∧ (task.call.ends = true ∨ task.call.ttlSeconds < ttl)
  | .other _ _ => False

end PresenceTask

/-- What the lease calls of a worker do to leases: they write its own, for the time they give, and
delete it only to give it up. -/
def leaseCommand (workerId : String) (ttl : Nat) (ends : Bool) : RedisCommand → Bool
  | .set key _ _ time => key = .workerOnlineLease workerId && time = some ttl
  | .expire key time => key = .workerOnlineLease workerId && time = ttl
  | .del key => key = .workerOnlineLease workerId && ends
  | _ => true

def leasing (workerId : String) (ttl : Nat) (ends : Bool) : Contract effects :=
  .only fun op => ∀ command, op = .redis command → leaseCommand workerId ttl ends command = true

section

variable {inv : WorkerRegistry → Prop} {workerId : String} {ttl : Nat} {ends : Bool}

theorem uses_leasing_bind {α : Type} {command : RedisCommand}
    {next : command.Reply → Proc WorkerRegistry α}
    (permitted : leaseCommand workerId ttl ends command = true)
    (rest : ∀ value, (next value).Uses (leasing workerId ttl ends) inv) :
    (redis command >>= next).Uses (leasing workerId ttl ends) inv := by
  refine uses_redis_bind (fun other same => ?_) fun value _ => rest value
  cases same
  exact permitted

theorem uses_leasing {command : RedisCommand}
    (permitted : leaseCommand workerId ttl ends command = true) :
    (redis command : Proc WorkerRegistry _).Uses (leasing workerId ttl ends) inv := by
  refine uses_redis fun other same => ?_
  cases same
  exact permitted

theorem claimWorkerId_leasing (workerId : String) (ttl : Nat) :
    (WorkerRegistry.claimWorkerId workerId ttl).Uses (leasing workerId ttl false)
      fun _ => True := by
  have drawn : (plainId : Proc WorkerRegistry String).Uses (leasing workerId ttl false)
      fun _ => True :=
    Task.uses_bind (Task.uses_await fun _ same => by cases same) fun _ => Task.uses_pure _
  refine Task.uses_bind Task.uses_get fun registry => Task.uses_bind drawn fun token => ?_
  refine uses_leasing_bind (by simp [leaseCommand]) fun ok => ?_
  dsimp only
  split
  · exact Task.uses_throw_bind _ _
  · exact Task.uses_bind (Task.uses_modify fun _ _ => trivial)
      fun _ => uses_leasing_bind rfl fun _ => Task.uses_pure _

theorem heartbeatWorker_leasing (workerId : String) (ttl : Nat) :
    (WorkerRegistry.heartbeatWorker workerId ttl).Uses (leasing workerId ttl false)
      fun _ => True := by
  refine Task.uses_bind (Task.uses_await fun _ same => by cases same) fun now => ?_
  refine Task.uses_bind Task.uses_get fun registry => uses_leasing_bind rfl fun current => ?_
  have beats (token : Option String) (ifAbsent : Bool) :
      (redis (.set (.workerOnlineLease workerId) (.presence ⟨token, now, registry.ipAddress⟩)
        ifAbsent (some ttl)) : Proc WorkerRegistry Bool).Uses (leasing workerId ttl false)
        fun _ => True :=
    uses_leasing (by simp [leaseCommand])
  have ends (written : Bool) : (if (!written) = true then pure false
      else do
        let _ ← redis (.sadd .knownWorkers workerId)
        pure true : Proc WorkerRegistry Bool).Uses (leasing workerId ttl false) fun _ => True := by
    split
    · exact Task.uses_pure _
    · exact uses_leasing_bind rfl fun _ => Task.uses_pure _
  dsimp only
  split
  · split
    · exact Task.uses_bind (beats _ _) ends
    · split
      · exact ends false
      · exact Task.uses_bind (beats _ _) ends
  · split
    · exact ends false
    · exact Task.uses_bind (beats _ _) ends

theorem refreshWorkerIdLock_leasing (workerId : String) (ttl : Nat) :
    (WorkerRegistry.refreshWorkerIdLock workerId ttl).Uses (leasing workerId ttl false)
      fun _ => True := by
  refine Task.uses_bind Task.uses_get fun registry => ?_
  split
  · exact Task.uses_pure _
  · refine uses_leasing_bind rfl fun current => ?_
    split
    · exact Task.uses_pure _
    · exact uses_leasing (by simp [leaseCommand])

theorem releaseWorkerId_leasing (workerId : String) (ttl : Nat) (token : Option String) :
    (WorkerRegistry.releaseWorkerId workerId token).Uses (leasing workerId ttl true)
      fun _ => True := by
  refine Task.uses_bind Task.uses_get fun registry => ?_
  dsimp only
  split
  · exact Task.uses_pure _
  · refine uses_leasing_bind rfl fun current => ?_
    split
    · exact Task.uses_pure _
    · exact uses_leasing_bind (by simp [leaseCommand]) fun _ =>
        Task.uses_bind (Task.uses_modify fun _ _ => trivial) fun _ => Task.uses_pure _

theorem markWorkerInactive_leasing (workerId : String) (ttl : Nat) (token : Option String) :
    (WorkerRegistry.markWorkerInactive workerId token).Uses (leasing workerId ttl true)
      fun _ => True := by
  refine Task.uses_bind Task.uses_get fun registry => uses_leasing_bind rfl fun current => ?_
  split
  · exact Task.uses_pure _
  · exact uses_leasing_bind (by simp [leaseCommand]) fun _ => Task.uses_pure _

theorem LeaseTask.program_leasing (workerId : String) (task : LeaseTask) :
    (task.program workerId).Uses (leasing workerId task.call.ttlSeconds task.call.ends) := by
  have ended {α : Type} {call : Proc WorkerRegistry α} {ttl : Nat} {ends : Bool}
      (uses : call.Uses (leasing workerId ttl ends) fun _ => True) :
      (toEnd call task.registry).Uses (leasing workerId ttl ends) :=
    (uses task.registry trivial).bind fun _ _ => trivial
  unfold LeaseTask.program
  cases task.call with
  | claim ttl => exact ended (claimWorkerId_leasing workerId ttl)
  | heartbeat ttl => exact ended (heartbeatWorker_leasing workerId ttl)
  | refresh ttl => exact ended (refreshWorkerIdLock_leasing workerId ttl)
  | release token => exact ended (releaseWorkerId_leasing workerId 0 token)
  | markInactive token => exact ended (markWorkerInactive_leasing workerId 0 token)

end

/-- Whatever is done, the lease of the worker is given no more than the given time. -/
def lasting (workerId : String) (ttl : Nat) : Contract effects :=
  .only fun op => ∀ command, op = .redis command →
    command.lasts (.workerOnlineLease workerId) ttl = true

def unrenewing (workerId : String) : Contract effects :=
  .only fun op => ∀ command, op = .redis command →
    command.renews (.workerOnlineLease workerId) = false

def missing (workerId : String) : Contract effects where
  allowed := (unrenewing workerId).allowed
  expected op reply := match op, reply with
    | .redis (.get key), .ok found => key = .workerOnlineLease workerId → found = none
    | _, _ => True

def upholding (workerId : String) (ttl : Nat) : Contract effects :=
  .only fun op => ∀ command, op = .redis command →
    command.upholds (.workerOnlineLease workerId) ttl = true

section

variable {workerId : String} {ttl : Nat} {task : PresenceTask}

theorem PresenceTask.program_uses {permitted : RedisCommand → Prop}
    (leases : ∀ named call command, task = .lease named call →
      leaseCommand named call.call.ttlSeconds call.call.ends command = true → permitted command)
    (spares : ∀ command : RedisCommand, command.keeps Key.isLease = true → permitted command) :
    task.program.Uses (.only fun op => ∀ command, op = .redis command → permitted command :
      Contract effects) := by
  cases task with
  | lease named call =>
      exact (call.program_leasing named).mono
        (fun op allowed command same => leases named call command rfl (allowed command same))
        (fun _ _ _ => trivial) fun _ _ => trivial
  | other program sparing =>
      refine sparing.mono (fun op allowed command same => ?_) (fun _ _ _ => trivial)
        fun _ _ => trivial
      subst same
      exact spares command allowed

theorem Key.ne_lease {key : Key} (spared : (!key.isLease) = true) :
    key ≠ .workerOnlineLease workerId := by
  rintro rfl
  cases spared

theorem PresenceTask.program_lasting (within : task.ttlSeconds ≤ ttl) :
    task.program.Uses (lasting workerId ttl) := by
  refine program_uses ?_ ?_
  · rintro named call command rfl leases
    have within : call.call.ttlSeconds ≤ ttl := within
    cases command with
    | set _ _ _ _ | expire _ _ =>
        simp only [leaseCommand, Bool.and_eq_true, decide_eq_true_eq] at leases
        simp [Redis.Command.lasts, leases.2, within]
    | _ => rfl
  · intro command spared
    cases command with
    | set _ _ _ _ | expire _ _ => simp [Redis.Command.lasts, Key.ne_lease spared]
    | _ => rfl

theorem PresenceTask.program_unrenewing (foreign : ¬ task.IsFor workerId) :
    task.program.Uses (unrenewing workerId) := by
  refine program_uses ?_ ?_
  · rintro named call command rfl leases
    have differ : named ≠ workerId := foreign
    cases command with
    | set _ _ _ _ | expire _ _ =>
        simp only [leaseCommand, Bool.and_eq_true, decide_eq_true_eq] at leases
        simp [Redis.Command.renews, leases.1, differ]
    | _ => rfl
  · intro command spared
    cases command with
    | set _ _ _ _ | expire _ _ => simp [Redis.Command.renews, Key.ne_lease spared]
    | _ => rfl

theorem PresenceTask.program_upholding (lasts : ¬ task.Ends workerId ttl) :
    task.program.Uses (upholding workerId ttl) := by
  refine program_uses ?_ ?_
  · rintro named call command rfl leases
    by_cases same : named = workerId
    · obtain ⟨kept, longer⟩ : call.call.ends = false ∧ ttl ≤ call.call.ttlSeconds := by
        simpa [Ends, same] using lasts
      cases command with
      | set _ _ _ _ | expire _ _ =>
          simp only [leaseCommand, Bool.and_eq_true, decide_eq_true_eq] at leases
          simp [Redis.Command.upholds, leases.2, longer]
      | del _ => simp [leaseCommand, kept] at leases
      | _ => rfl
    · cases command with
      | set _ _ _ _ | expire _ _ | del _ =>
          simp only [leaseCommand, Bool.and_eq_true, decide_eq_true_eq] at leases
          simp [Redis.Command.upholds, leases.1, same]
      | _ => rfl
  · intro command spared
    cases command with
    | set _ _ _ _ | expire _ _ | del _ => simp [Redis.Command.upholds, Key.ne_lease spared]
    | _ => rfl

end

theorem Fleet.found_of_get {mayFail : RedisCommand → Prop} {fleet after : Fleet} {key : Key}
    {found : Option Value} (served : fleet.serve mayFail (.redis (.get key)) (.ok found) after) :
    found = fleet.store.text key := by
  have read : (.ok (fleet.store.text key) : Except String (Option Value)) = .ok found :=
    congrArg Prod.fst (Fleet.serve_ok served)
  cases read
  rfl

section

variable {ι : Type} [DecidableEq ι]

def presenceWorld (mayFail : RedisCommand → Prop) (tasks : ι → PresenceTask) :
    World effects Fleet ι Unit :=
  programWorld mayFail fun index => (tasks index).program

def Unattended (workerId : String) (tasks : ι → PresenceTask) (_ : Config effects Fleet ι Unit) :
    Event effects ι → Prop
  | .start index => ¬ (tasks index).IsFor workerId
  | _ => True

variable {workerId : String} {ttl : Nat} {mayFail : RedisCommand → Prop}
  {tasks : ι → PresenceTask}

omit [DecidableEq ι] in
theorem presence_accord (fact : RedisStore → Prop) {permitted : RedisCommand → Prop}
    {permits : Config effects Fleet ι Unit → Event effects ι → Prop} {contract : Contract effects}
    (same : contract.allowed = fun op => ∀ command, op = .redis command → permitted command)
    (exec : ∀ (store : RedisStore) (command : RedisCommand), fact store → permitted command →
      fact (store.exec command).2)
    (advance : ∀ (store : RedisStore) now, fact store → store.clock ≤ now →
      fact (store.advance now))
    (expected : ∀ fleet op reply after, fact fleet.store →
      Fleet.serve mayFail fleet op reply after → contract.expected op reply)
    (uses : ∀ config index, permits config (.start index) → (tasks index).program.Uses contract) :
    Accord (presenceWorld mayFail tasks) permits contract fun fleet => fact fleet.store where
  serve := by
    intro fleet op reply after holds allowed served
    have served : Fleet.serve mayFail fleet op reply after := served
    refine ⟨expected fleet op reply after holds served, ?_⟩
    rw [same] at allowed
    by_cases isCommand : ∃ command, op = .redis command
    · obtain ⟨command, rfl⟩ := isCommand
      exact Fleet.serve_store fact served holds (exec _ _ holds (allowed command rfl))
    · rw [Fleet.serve_other served (not_exists.mp isCommand)]
      exact holds
  start := by
    rintro config index program after holds begins ⟨rfl, rfl⟩
    exact ⟨uses config index begins, holds⟩
  stop := by
    rintro fleet index program after holds rfl
    exact holds
  lapse := by
    rintro fleet after holds (⟨now, later⟩ | restarted)
    · exact advance _ _ holds later
    · exact holds

omit [DecidableEq ι] in
theorem lasting_accord (within : ∀ index, (tasks index).ttlSeconds ≤ ttl) :
    Accord (presenceWorld mayFail tasks) (fun _ _ => True) (lasting workerId ttl) fun fleet =>
      fleet.store.Lapses (.workerOnlineLease workerId) (fleet.store.clock + 1000 * ttl) := by
  refine presence_accord (fun store => store.Lapses (.workerOnlineLease workerId)
    (store.clock + 1000 * ttl)) rfl ?_ ?_ (fun _ _ _ _ _ _ => trivial) ?_
  · intro store command lapses lasts
    rw [Redis.Store.clock_exec]
    exact lapses.renewed lasts
  · intro store now lapses later
    refine (lapses.advance now).later ?_
    simp only [Redis.Store.advance]
    omega
  · intro config index _
    exact PresenceTask.program_lasting (within index)

omit [DecidableEq ι] in
theorem lapsing_accord (limit : Int) :
    Accord (presenceWorld mayFail tasks) (Unattended workerId tasks) (unrenewing workerId)
      fun fleet => fleet.store.Lapses (.workerOnlineLease workerId) limit :=
  presence_accord (fun store => store.Lapses (.workerOnlineLease workerId) limit) rfl
    (fun _ _ lapses unrenewed => lapses.exec unrenewed) (fun _ now lapses _ => lapses.advance now)
    (fun _ _ _ _ _ _ => trivial) fun _ _ => PresenceTask.program_unrenewing

omit [DecidableEq ι] in
theorem missing_accord (limit : Int) :
    Accord (presenceWorld mayFail tasks) (Unattended workerId tasks) (missing workerId)
      fun fleet => fleet.store.Lapses (.workerOnlineLease workerId) limit ∧
        limit < fleet.store.clock := by
  refine presence_accord (fun store => store.Lapses (.workerOnlineLease workerId) limit ∧
    limit < store.clock) rfl ?_ ?_ ?_ ?_
  · rintro store command ⟨held, after⟩ unrenewed
    exact ⟨held.exec unrenewed, by rwa [Redis.Store.clock_exec]⟩
  · rintro store now ⟨held, after⟩ later
    exact ⟨held.advance now, lt_of_lt_of_le after later⟩
  · rintro fleet op reply after ⟨held, past⟩ served
    cases op with
    | redis command =>
        cases command with
        | get key =>
            cases reply with
            | error message => trivial
            | ok found =>
                rintro rfl
                rw [Fleet.found_of_get served]
                exact held.gone past
        | _ => trivial
    | _ => trivial
  · intro config index foreign
    exact (PresenceTask.program_unrenewing foreign).mono (fun _ allowed => allowed)
      (fun _ _ _ => trivial) fun _ _ => trivial

end

/-- When no call for a worker's lease is in progress and none begins, then one lease time later
the lease is gone and no look at it finds one, whatever other workers and tasks do. -/
theorem dead_worker_unseen {ι : Type} [DecidableEq ι] {workerId : String} {ttl : Nat}
    {mayFail : RedisCommand → Prop} {tasks : ι → PresenceTask}
    {died later last : Config effects Fleet ι Unit} {past between events : List (Event effects ι)}
    (within : ∀ index, (tasks index).ttlSeconds ≤ ttl)
    (reached : Runs (presenceWorld mayFail tasks) (fun _ _ => True)
      ⟨Fleet.fresh, fun _ => none⟩ past died)
    (idle : ∀ index, (tasks index).IsFor workerId → died.task index = none)
    (waits : Runs (presenceWorld mayFail tasks) (Unattended workerId tasks) died between later)
    (late : died.state.store.clock + 1000 * ttl < later.state.store.clock)
    (runs : Runs (presenceWorld mayFail tasks) (Unattended workerId tasks) later events last) :
    last.state.store.text (.workerOnlineLease workerId) = none ∧
      ∀ index found, .issue index (.redis (.get (.workerOnlineLease workerId))) (.ok found) ∈
        events → found = none := by
  have nobody {contract : Contract effects} :
      KeepsTo contract (⟨Fleet.fresh, fun _ => none⟩ : Config effects Fleet ι Unit) := by
    rintro index program ⟨⟩
  obtain ⟨-, lapses, -⟩ := (lasting_accord within).runs nobody (by rintro ⟨⟩) reached
  have keeps : KeepsTo (unrenewing workerId) died := by
    refine KeepsTo.of_idle ?_ (fun _ => rfl) reached idle
    rintro fleet index program after ⟨rfl, rfl⟩ foreign
    exact PresenceTask.program_unrenewing foreign
  let limit := died.state.store.clock + 1000 * ttl
  obtain ⟨keeping, lapsed, -⟩ := (lapsing_accord limit).runs keeps lapses waits
  have misses : KeepsTo (missing workerId) later := by
    intro index program running
    exact (keeping index program running).mono (fun _ allowed => allowed)
      (fun _ _ _ => trivial) fun _ _ => trivial
  obtain ⟨-, ⟨held, after⟩, exchanged⟩ := (missing_accord limit).runs misses ⟨lapsed, late⟩ runs
  exact ⟨held.gone after, fun index found listed => (exchanged index _ _ listed).2 rfl⟩

/-! ### A worker that claimed its id and died -/

namespace PresenceLeases

theorem isWorkerOnline_unleasing (workerId : String) :
    (toEnd (isWorkerOnline workerId) ()).Uses unleasing := by
  have spares : (isWorkerOnline workerId : Proc Unit Bool).Uses unleasing fun _ => True := by
    refine uses_of_reading (isWorkerOnline_reading workerId) fun op reads => ?_
    unfold Op.isReading at reads
    split at reads <;> first | rfl | cases reads
  exact (spares () trivial).bind fun _ _ => trivial

inductive Shift where
  | claims | beats | looks
deriving DecidableEq

def shifts : Shift → PresenceTask
  | .claims => .lease "worker" ⟨"first", {}, .claim 15⟩
  | .beats => .lease "other" ⟨"second", {}, .heartbeat 15⟩
  | .looks => .other _ (isWorkerOnline_unleasing "worker")

def shiftPlayer : Player effects Fleet Shift Unit Int :=
  programPlayer fun index => (shifts index).program

theorem shift_plays : shiftPlayer.Plays (presenceWorld (fun _ => False) shifts) :=
  programPlayer_plays _ _

abbrev ShiftConfig := Config effects Fleet Shift Unit

def claimingMoves : List (Move Shift Int) := Move.turn .claims 3 ++ [.stop .claims]

def waitingMoves : List (Move Shift Int) := Move.turn .beats 4 ++ [.pass 15001]

def seekingMoves : List (Move Shift Int) := Move.turn .looks 1

def claimedPlay : List (Event effects Shift) × ShiftConfig :=
  shiftPlayer.play ⟨Fleet.fresh, fun _ => none⟩ claimingMoves

def waitedPlay : List (Event effects Shift) × ShiftConfig :=
  shiftPlayer.play claimedPlay.2 waitingMoves

def soughtPlay : List (Event effects Shift) × ShiftConfig :=
  shiftPlayer.play waitedPlay.2 seekingMoves

def claimsNothing (_ : ShiftConfig) : Event effects Shift → Bool
  | .start index => decide (index ≠ .claims)
  | _ => true

theorem claimsNothing_sound (config : ShiftConfig) (event : Event effects Shift)
    (nothing : claimsNothing config event = true) :
    Unattended "worker" shifts config event := by
  cases event with
  | start index =>
      cases index with
      | claims => cases nothing
      | beats => exact fun own => absurd (show "other" = "worker" from own) (by decide)
      | looks => exact id
  | _ => trivial

theorem dead_worker_unseen_claimed :
    (claimedPlay.2.state.store.text (.workerOnlineLease "worker")).isSome = true ∧
      soughtPlay.2.state.store.text (.workerOnlineLease "worker") = none := by
  have reached := shift_plays.runs ⟨Fleet.fresh, fun _ => none⟩ claimingMoves
  have silent : shiftPlayer.minds claimsNothing claimedPlay.2 waitingMoves = true := by
    decide +kernel
  have waits := shift_plays.runs_minding claimsNothing_sound claimedPlay.2 waitingMoves silent
  have quiet : shiftPlayer.minds claimsNothing waitedPlay.2 seekingMoves = true := by
    decide +kernel
  have runs := shift_plays.runs_minding claimsNothing_sound waitedPlay.2 seekingMoves quiet
  have within (index : Shift) : (shifts index).ttlSeconds ≤ 15 := by
    cases index <;> decide
  have idle (index : Shift) (own : (shifts index).IsFor "worker") :
      claimedPlay.2.task index = none := by
    cases index with
    | claims =>
        have stopped : (claimedPlay.2.task .claims).isNone = true := by decide +kernel
        exact Option.isNone_iff_eq_none.mp stopped
    | beats => exact absurd (show "other" = "worker" from own) (by decide)
    | looks => cases own
  exact ⟨by decide +kernel,
    (dead_worker_unseen within reached idle waits (by decide +kernel) runs).1⟩

end PresenceLeases

/-! ### A lease that has not run out -/

section

variable {ι : Type} [DecidableEq ι] {workerId : String} {ttl : Nat}
  {mayFail : RedisCommand → Prop} {tasks : ι → PresenceTask}

/-- No call begins that gives the worker's lease up, or less than the given time. -/
def Upheld (workerId : String) (ttl : Nat) (tasks : ι → PresenceTask)
    (_ : Config effects Fleet ι Unit) : Event effects ι → Prop
  | .start index => ¬ (tasks index).Ends workerId ttl
  | _ => True

omit [DecidableEq ι] in
theorem upholding_accord (limit : Int) :
    Accord (presenceWorld mayFail tasks) (Upheld workerId ttl tasks) (upholding workerId ttl)
      fun fleet => limit ≤ fleet.store.clock + 1000 * ttl ∧
        (fleet.store.clock < limit → fleet.store.Stays (.workerOnlineLease workerId) limit) := by
  refine presence_accord (fun store => limit ≤ store.clock + 1000 * ttl ∧
    (store.clock < limit → store.Stays (.workerOnlineLease workerId) limit)) rfl ?_ ?_
    (fun _ _ _ _ _ _ => trivial) fun _ _ => PresenceTask.program_upholding
  · rintro store command ⟨within, stays⟩ upholds
    rw [Redis.Store.clock_exec]
    exact ⟨within, fun early => (stays early).exec upholds within⟩
  · rintro store now ⟨within, stays⟩ later
    refine ⟨?_, fun early => (stays (lt_of_le_of_lt later early)).advance early⟩
    simp only [Redis.Store.advance]
    omega

end

/-- From the moment a worker's lease is written and as long as the time that this gave it lasts,
every look at the lease finds one, unless a call that gives the lease up, or less time, is in
progress then or begins. -/
theorem live_worker_seen {ι : Type} [DecidableEq ι] {workerId : String} {ttl : Nat}
    {mayFail : RedisCommand → Prop} {tasks : ι → PresenceTask}
    {before renewed now last : Config effects Fleet ι Unit} {past between : List (Event effects ι)}
    {renewer index : ι} {value : Value} {ifAbsent : Bool} {found : Option Value}
    (reached : Runs (presenceWorld mayFail tasks) (fun _ _ => True)
      ⟨Fleet.fresh, fun _ => none⟩ past before)
    (renews : Step (presenceWorld mayFail tasks) before (.issue renewer
      (.redis (.set (.workerOnlineLease workerId) value ifAbsent (some ttl))) (.ok true)) renewed)
    (idle : ∀ index, (tasks index).Ends workerId ttl → renewed.task index = none)
    (runs : Runs (presenceWorld mayFail tasks) (Upheld workerId ttl tasks) renewed between now)
    (early : now.state.store.clock < before.state.store.clock + 1000 * ttl)
    (looks : Step (presenceWorld mayFail tasks) now
      (.issue index (.redis (.get (.workerOnlineLease workerId))) (.ok found)) last) :
    found.isSome = true := by
  have keeps : KeepsTo (upholding workerId ttl) renewed := by
    refine KeepsTo.of_idle ?_ (fun _ => rfl) (reached.step trivial renews) idle
    rintro fleet index program after ⟨rfl, rfl⟩ lasts
    exact PresenceTask.program_upholding lasts
  cases renews with
  | @issue _ _ _ _ after running served =>
      have written := Fleet.serve_ok served
      have same : after.store.clock = before.state.store.clock := by
        rw [← Redis.Store.clock_exec before.state.store
          (.set (.workerOnlineLease workerId) value ifAbsent (some ttl)), written]
      obtain ⟨-, ⟨-, stays⟩, -⟩ := (upholding_accord
        (before.state.store.clock + 1000 * ttl)).runs keeps
        ⟨by simp [same], fun _ => .of_set written⟩ runs
      cases looks with
      | issue looking answered =>
          rw [Fleet.found_of_get answered]
          exact (stays early).1

namespace PresenceLeases

def aboutToClaimWorker (config : ShiftConfig) : Bool :=
  match shiftPlayer.move config (.go .claims) with
  | some (.issue by_ (.redis (.set key _ true (some ttl))) (.ok true), _) =>
      decide (by_ = .claims) && decide (key = .workerOnlineLease "worker") && decide (ttl = 15)
  | _ => false

theorem claims_of_aboutToClaimWorker {config : ShiftConfig}
    (about : aboutToClaimWorker config = true) :
    ∃ value, Step (presenceWorld (fun _ => False) shifts) config
      (.issue .claims (.redis (.set (.workerOnlineLease "worker") value true (some 15)))
        (.ok true)) (shiftPlayer.after config (.go .claims)) := by
  unfold aboutToClaimWorker at about
  split at about
  · rename_i other key value ttl next made
    simp only [Bool.and_eq_true, decide_eq_true_eq] at about
    obtain ⟨⟨rfl, rfl⟩, rfl⟩ := about
    refine ⟨value, ?_⟩
    have step := shift_plays.step made
    simpa [Player.after, made] using step
  · cases about

def aboutToLook (config : ShiftConfig) : Bool :=
  match shiftPlayer.move config (.go .looks) with
  | some (.issue by_ (.redis (.get key)) (.ok _), _) =>
      decide (by_ = .looks) && decide (key = .workerOnlineLease "worker")
  | _ => false

theorem looks_of_aboutToLook {config : ShiftConfig} (about : aboutToLook config = true) :
    ∃ found, Step (presenceWorld (fun _ => False) shifts) config
      (.issue .looks (.redis (.get (.workerOnlineLease "worker"))) (.ok found))
      (shiftPlayer.after config (.go .looks)) := by
  unfold aboutToLook at about
  split at about
  · rename_i other key found next made
    simp only [Bool.and_eq_true, decide_eq_true_eq] at about
    obtain ⟨rfl, rfl⟩ := about
    refine ⟨found, ?_⟩
    have step := shift_plays.step made
    simpa [Player.after, made] using step
  · cases about

def drawnPlay : List (Event effects Shift) × ShiftConfig :=
  shiftPlayer.play ⟨Fleet.fresh, fun _ => none⟩ (Move.turn .claims 1)

def leasedConfig : ShiftConfig := shiftPlayer.after drawnPlay.2 (.go .claims)

def lookMoves : List (Move Shift Int) :=
  .stop .claims :: Move.turn .beats 4 ++ [.pass 14000, .start .looks]

def lookPlay : List (Event effects Shift) × ShiftConfig :=
  shiftPlayer.play leasedConfig lookMoves

theorem live_worker_seen_claimed : aboutToClaimWorker drawnPlay.2 = true ∧
    ∃ found last, Step (presenceWorld (fun _ => False) shifts) lookPlay.2
      (.issue .looks (.redis (.get (.workerOnlineLease "worker"))) (.ok (some found))) last := by
  have about : aboutToClaimWorker drawnPlay.2 = true := by decide +kernel
  refine ⟨about, ?_⟩
  have lasts (index : Shift) : ¬ (shifts index).Ends "worker" 15 := by
    cases index with
    | claims => simp [shifts, PresenceTask.Ends, LeaseCall.ends, LeaseCall.ttlSeconds]
    | beats => simp [shifts, PresenceTask.Ends]
    | looks => exact id
  have reached := shift_plays.runs ⟨Fleet.fresh, fun _ => none⟩ (Move.turn .claims 1)
  obtain ⟨value, renews⟩ := claims_of_aboutToClaimWorker about
  have runs : Runs (presenceWorld (fun _ => False) shifts) (Upheld "worker" 15 shifts)
      leasedConfig lookPlay.1 lookPlay.2 := by
    refine (shift_plays.runs leasedConfig lookMoves).mono fun config event _ => ?_
    cases event with
    | start index => exact lasts index
    | _ => trivial
  have looking : aboutToLook lookPlay.2 = true := by decide +kernel
  obtain ⟨found, looks⟩ := looks_of_aboutToLook looking
  have seen := live_worker_seen reached renews (fun index ends => absurd ends (lasts index)) runs
    (by decide +kernel) looks
  obtain ⟨value, rfl⟩ := Option.isSome_iff_exists.mp seen
  exact ⟨value, _, looks⟩

end PresenceLeases

end ByFramework
