import ByFramework.Async.Schedule
import ByFramework.Fleet
import ByFramework.Redis.Groups

/-!
How commands get from their streams to the tasks that process them, across a fleet whose
workers start and stop, and what is remembered of a consume loop to follow them there.
-/

namespace ByFramework

open Async

/-- Streams that carry commands. -/
def Key.isControl : Key → Bool
  | .ctrlStream _ | .workerCtrlStream _ => true
  | _ => false

def Op.isBystander : Op → Bool
  | .redis (.xreadgroup _ _ _ _) | .redis (.xclaim _ _ _ _ _) => false
  | .redis command => command.keeps Key.isControl
  | .process _ (.handOver _ _ _) | .process _ (.reach (.controlMessage _ _)) => false
  | _ => true

def bystander : Contract effects := .only fun op => op.isBystander = true

/-- What the tasks of a fleet are: the parts of its runners, the messages they process, and
whatever else shares the same Redis. -/
inductive FleetTask where
  | setup (runner : WorkerRunner)
  | consume (runner : WorkerRunner) (rounds : Nat)
  | control (runner : WorkerRunner)
  | message (worker : GatewayWorker) (groupName : String) (entry : StreamMessage)
  | other (program : Prog effects Unit) (aside : program.Uses bystander)

namespace FleetTask

def program : FleetTask → Prog effects Unit
  | .setup runner => toEnd WorkerRunner.initializeRunner runner
  | .consume runner rounds => toEnd (WorkerRunner.consume rounds) runner
  | .control runner => toEnd (runControlOnce runner.workerId runner.groupName) ()
  | .message worker groupName entry =>
      toEnd (worker.processAndAck groupName entry.streamName entry.msgId entry.command) ()
  | .other program _ => program

def runner : FleetTask → Option WorkerRunner
  | .setup runner | .consume runner _ | .control runner => some runner
  | _ => none

def home : FleetTask → Option String
  | .setup runner | .consume runner _ | .control runner => some runner.workerId
  | .message worker _ _ => some worker.workerId
  | .other _ _ => none

def isConsume : FleetTask → Bool
  | .consume _ _ => true
  | _ => false

/-- A message is processed once it was handed over in its own process. -/
inductive Begins (fleet : Fleet) : FleetTask → Fleet → Prop
  | message {worker groupName entry before rest} :
      (fleet.process worker.workerId).handed = before ++ entry :: rest →
      Begins fleet (.message worker groupName entry) (fleet.withProcess worker.workerId
        { fleet.process worker.workerId with handed := before ++ rest })
  | loop {task runner} : task.runner = some runner → Begins fleet task fleet
  | other {program aside} : Begins fleet (.other program aside) fleet

end FleetTask

/-- What `Begins` leads to, where it can be computed. -/
def FleetTask.begin (fleet : Fleet) : FleetTask → Option Fleet
  | .message worker _ entry =>
      let memory := fleet.process worker.workerId
      if entry ∈ memory.handed then
        some (fleet.withProcess worker.workerId { memory with handed := memory.handed.erase entry })
      else none
  | _ => some fleet

def WorkerRunner.reads (runner : WorkerRunner) : Key → Prop
  | .ctrlStream agentType => agentType ∈ runner.agentTypes
  | .workerCtrlStream workerId => workerId = runner.workerId
  | _ => False

def fleetWorld {ι : Type} (mayFail : RedisCommand → Prop) (tasks : ι → FleetTask) :
    World effects Fleet ι Unit where
  serve := Fleet.serve mayFail
  start fleet index program after :=
    program = (tasks index).program ∧ (tasks index).Begins fleet after
  stop fleet _ _ after := after = fleet
  lapse := Fleet.Lapse

/-- Runs of a fleet in which nothing fails, computed. -/
def fleetPlayer {ι : Type} (tasks : ι → FleetTask) : Player effects Fleet ι Unit Int where
  answer := Fleet.answer
  program index := (tasks index).program
  begins fleet index := (tasks index).begin fleet
  pass fleet now := { fleet with store := fleet.store.advance (max fleet.store.clock now) }

theorem FleetTask.begins_of_begin {fleet after : Fleet} {task : FleetTask}
    (begun : task.begin fleet = some after) : task.Begins fleet after := by
  cases task with
  | message worker groupName entry =>
      simp only [begin] at begun
      split at begun
      · rename_i handed
        cases begun
        obtain ⟨before, rest, _, listed, erased⟩ := List.exists_erase_eq handed
        rw [erased]
        exact .message listed
      · cases begun
  | setup runner =>
      cases begun
      exact .loop rfl
  | consume runner rounds =>
      cases begun
      exact .loop rfl
  | control runner =>
      cases begun
      exact .loop rfl
  | other program aside =>
      cases begun
      exact .other

theorem fleetPlayer_plays {ι : Type} [DecidableEq ι] (mayFail : RedisCommand → Prop)
    (tasks : ι → FleetTask) : (fleetPlayer tasks).Plays (fleetWorld mayFail tasks) where
  serve := Fleet.answer_serves mayFail
  start _ _ _ begun := ⟨rfl, FleetTask.begins_of_begin begun⟩
  stop _ _ _ := rfl
  lapse _ _ := .time _ (le_max_left _ _)

/-- Any two workers that read one stream read it in the same group. -/
def GroupsAgree {ι : Type} (tasks : ι → FleetTask) : Prop :=
  ∀ first second left right key, (tasks first).runner = some left →
    (tasks second).runner = some right → left.reads key → right.reads key →
      left.groupName = right.groupName

/-- Whether a lease says its worker is online. -/
def leaseOnline (lease : Option Value) : Bool :=
  lease.isSome && ((decodeWorkerPresence lease).isLegacy ||
    decide (0 < (decodeWorkerPresence lease).lastSeen))

def handsOver (streamName : Key) (msgId : Nat) {ι : Type} : Event effects ι → Bool
  | .issue _ (.process _ (.handOver key entry _)) _ => key = streamName && entry = msgId
  | .issue _ (.process _ (.reach (.controlMessage key entry))) _ =>
      key = streamName && entry = msgId
  | _ => false

/-! ### What is remembered of a loop -/

/-- The entries a task was handed and has yet to pass on, and what its last look at a pending
list showed. -/
structure DeliveryMemo where
  credit : Key × Nat → Nat := fun _ => 0
  pending : Option (Key × List Redis.PendingSummary) := none
  offline : List String := []

namespace DeliveryMemo

def receive (memo : DeliveryMemo) (key : Key) (entries : List (Nat × Value)) : DeliveryMemo :=
  { memo with credit := fun place =>
      memo.credit place + (entries.map fun entry => (key, entry.1)).count place }

def spend (memo : DeliveryMemo) (place : Key × Nat) : DeliveryMemo :=
  { memo with credit := Function.update memo.credit place (memo.credit place - 1) }

def note (memo : DeliveryMemo) : (op : Op) → op.Reply → DeliveryMemo
  | .redis (.xreadgroup key _ _ _), .ok entries => memo.receive key entries
  | .redis (.xclaim key _ _ _ _), .ok entries => { memo with pending := none }.receive key entries
  | .redis (.xclaim _ _ _ _ _), .error _ => { memo with pending := none }
  | .redis (.xpending key _ _), .ok waiting =>
      { memo with pending := some (key, waiting), offline := [] }
  | .redis (.get (.workerOnlineLease workerId)), .ok lease =>
      if leaseOnline lease then memo else { memo with offline := workerId :: memo.offline }
  | .process _ (.handOver key entry _), _ => memo.spend (key, entry)
  | .process _ (.reach (.controlMessage key entry)), _ => memo.spend (key, entry)
  | _, _ => memo

def Orphaned (memo : DeliveryMemo) (key : Key) (workerId : String) (entries : List Nat) : Prop :=
  entries ≠ [] ∧ ∃ waiting, memo.pending = some (key, waiting) ∧
    entries.Sublist (waiting.map Redis.PendingSummary.entry) ∧ ∀ entry ∈ entries,
      ∃ summary ∈ waiting, summary.entry = entry ∧ summary.consumer ≠ workerId ∧
        summary.consumer ∈ memo.offline

end DeliveryMemo

def deliveryWatch (task : FleetTask) : Watch effects DeliveryMemo where
  first := {}
  note := DeliveryMemo.note
  allow memo
    | .redis (.xreadgroup key groupName consumer _) => ∃ runner, task.runner = some runner ∧
        runner.reads key ∧ groupName = runner.groupName ∧ consumer = runner.workerId
    | .redis (.xclaim key groupName consumer minIdle entries) => ∃ runner rounds,
        task = .consume runner rounds ∧ runner.reads key ∧ groupName = runner.groupName ∧
          consumer = runner.workerId ∧ minIdle = WorkerRunner.orphanReclaimIdleMs ∧
          memo.Orphaned key runner.workerId entries
    | .redis (.xpending key groupName _) => ∀ runner rounds, task = .consume runner rounds →
        runner.reads key ∧ groupName = runner.groupName
    | .process workerId (.handOver key entry _) =>
        0 < memo.credit (key, entry) ∧ task.home = some workerId
    | .process _ (.reach (.controlMessage key entry)) => 0 < memo.credit (key, entry)
    | op => op.isBystander = true
  expect _ _ _ := True

end ByFramework
