import Mathlib.Data.Fintype.Card
import ByFramework.Redis.Store
import ByFramework.WorkerCore

/-!
All the replies of one Task Group, joined by workers that interleave command by command: one
join passes, it passes last, and it finds every member's result.
-/

namespace ByFramework

open Async

abbrev JoinOutcome := Except JsError (Option AgentTaskResult) × Unit

def groupJoins {ι : Type} (store : RedisStore) (replies : ι → ResumeCommand) :
    Config effects RedisStore ι JoinOutcome :=
  ⟨store, fun index => some (Task.start (joinGroup (replies index)) ())⟩

def joinWorld (ι : Type) : World effects RedisStore ι JoinOutcome := World.closed redisServe

/-- The join has let its reply resume the caller. -/
def Passed {ι : Type} (config : Config effects RedisStore ι JoinOutcome) (index : ι) : Prop :=
  config.result index = some (.ok none, ())

/-- The join has ended its message as one that waits for the rest of the group. -/
def Waits {ι : Type} (config : Config effects RedisStore ι JoinOutcome) (index : ι) : Prop :=
  config.result index = some (.ok (some waitingForGroupResult), ())

def Apart {σ α : Type} (task : Proc σ α) (bare : Proc Unit α) (memory : σ) : Prop :=
  Task.start task memory = Task.start bare () >>= fun ending => .done (ending.1, memory)

theorem Apart.redis_bind {σ α : Type} {command : RedisCommand} {next : command.Reply → Proc σ α}
    {bare : command.Reply → Proc Unit α} {memory : σ}
    (rest : ∀ reply, Apart (next reply) (bare reply) memory) :
    Apart (redis command >>= next) (redis command >>= bare) memory := by
  unfold Apart
  rw [start_redis_bind, start_redis_bind, Prog.call_bind]
  congr 1
  funext reply
  cases reply with
  | error message => rfl
  | ok reply => exact rest reply

theorem joinGroup_apart {σ : Type} (reply : ResumeCommand) (memory : σ) :
    Apart (joinGroup reply) (joinGroup reply) memory := by
  refine Apart.redis_bind fun total => ?_
  cases total with
  | none => rfl
  | some total =>
      refine Apart.redis_bind fun aborted => ?_
      split
      · rfl
      · refine Apart.redis_bind fun _ => Apart.redis_bind fun _ => Apart.redis_bind fun completed => ?_
        split
        · rfl
        · rfl

theorem processMessage_joins {worker : GatewayWorker} {resume : ResumeCommand}
    {options : HandleMessageOptions} (grouped : resume.header.taskGroupId ≠ "") :
    worker.processMessage (.resume resume) options = (do
      hook "onTaskStart"
      worker.setupWorkspace (.resume resume)
      worker.assertNotCancelled options
      GatewayWorker.persistAgentReturnState resume
      match ← joinGroup resume with
      | some ending => pure ending
      | none =>
          MessageRun.onContext (AgentContext.emitState AgentState.resumed)
          worker.afterHandler (.resume resume) options
            (← worker.runHandler (.resume resume) options)) := by
  unfold GatewayWorker.processMessage GatewayWorker.prepare GatewayWorker.rejoin
    GatewayWorker.saveUserMessage
  dsimp only
  rw [if_neg grouped]
  simp only [bind_assoc, pure_bind]
  congr 1
  funext _
  congr 1
  funext _
  congr 1
  funext _
  congr 1
  funext _
  congr 1
  funext ending
  cases ending with
  | some result => simp only [pure_bind]
  | none => simp only [bind_assoc, pure_bind]

inductive JoinStage where
  | readingTotal
  | readingAborted (total : Value)
  | storing (total : Value)
  | refreshing (total : Value)
  | counting (total : Value)
  | finished (outcome : Option AgentTaskResult)
  | failed (message : String)

namespace JoinStage

variable (reply : ResumeCommand)

def afterTotal : Except String (Option Value) → JoinStage
  | .ok none => .finished (some (groupExpiredResult reply.header))
  | .ok (some total) => .readingAborted total
  | .error message => .failed message

def afterAborted (total : Value) : Except String (Option Value) → JoinStage
  | .ok aborted =>
      if Option.any Value.truthy aborted then .finished (some groupAbortedResult) else .storing total
  | .error message => .failed message

def afterStore (total : Value) : Except String Nat → JoinStage
  | .ok _ => .refreshing total
  | .error message => .failed message

def afterExpire (total : Value) : Except String Bool → JoinStage
  | .ok _ => .counting total
  | .error message => .failed message

def afterCount (total : Value) : Except String Int → JoinStage
  | .ok completed =>
      if belowParsed completed total.parseInt then .finished (some waitingForGroupResult)
      else .finished none
  | .error message => .failed message

def groupKey : Key := .taskGroup reply.header.taskGroupId

def resultsKey : Key := .taskGroupResults reply.header.taskGroupId

def storeCommand : RedisCommand :=
  .hset (resultsKey reply) [(reply.header.parentMessageId, .result (resultData reply))]

def countCommand : RedisCommand := .hincrby (groupKey reply) taskGroupFieldCompleted 1

def point : JoinStage → Point effects JoinStage JoinOutcome
  | .readingTotal =>
      .awaiting (Op.redis (.hget (groupKey reply) taskGroupFieldTotal)) (afterTotal reply)
  | .readingAborted total =>
      .awaiting (Op.redis (.hget (groupKey reply) taskGroupFieldAborted)) (afterAborted total)
  | .storing total => .awaiting (Op.redis (storeCommand reply)) (afterStore total)
  | .refreshing total =>
      .awaiting (Op.redis (.expire (resultsKey reply) taskGroupTtlSeconds)) (afterExpire total)
  | .counting total => .awaiting (Op.redis (countCommand reply)) (afterCount total)
  | .finished outcome => .finished (.ok outcome, ())
  | .failed message => .finished (.error (redisError message), ())

def counted (total : Value) : Proc Unit (Option AgentTaskResult) := do
  let completed ← redis (.hincrby (groupKey reply) taskGroupFieldCompleted 1)
  if belowParsed completed total.parseInt then pure (some waitingForGroupResult)
  else pure none

def refreshed (total : Value) : Proc Unit (Option AgentTaskResult) := do
  let _ ← redis (.expire (resultsKey reply) taskGroupTtlSeconds)
  counted reply total

def stored (total : Value) : Proc Unit (Option AgentTaskResult) := do
  let _ ← redis (.hset (resultsKey reply)
    [(reply.header.parentMessageId, .result (resultData reply))])
  refreshed reply total

def checked (total : Value) : Proc Unit (Option AgentTaskResult) := do
  let aborted ← redis (.hget (groupKey reply) taskGroupFieldAborted)
  if Option.any Value.truthy aborted then pure (some groupAbortedResult)
  else stored reply total

def program : JoinStage → Prog effects JoinOutcome
  | .readingTotal => Task.start (joinGroup reply) ()
  | .readingAborted total => Task.start (checked reply total) ()
  | .storing total => Task.start (stored reply total) ()
  | .refreshing total => Task.start (refreshed reply total) ()
  | .counting total => Task.start (counted reply total) ()
  | .finished outcome => .done (.ok outcome, ())
  | .failed message => .done (.error (redisError message), ())

theorem program_eq (stage : JoinStage) :
    program reply stage = match point reply stage with
      | .finished value => .done value
      | .awaiting op next => .call op fun answer => program reply (next answer) := by
  cases stage with
  | readingTotal =>
      refine (start_redis_bind (.hget (groupKey reply) taskGroupFieldTotal) _ ()).trans ?_
      simp only [point]
      congr 1
      funext answer
      rcases answer with message | _ | total
      · rfl
      · rfl
      · rfl
  | readingAborted total =>
      refine (start_redis_bind (.hget (groupKey reply) taskGroupFieldAborted) _ ()).trans ?_
      simp only [point]
      congr 1
      funext answer
      cases answer with
      | error message => rfl
      | ok aborted =>
          simp only [afterAborted]
          split
          · rfl
          · rfl
  | storing total =>
      refine (start_redis_bind (storeCommand reply) _ ()).trans ?_
      simp only [point]
      congr 1
      funext answer
      cases answer with
      | error message => rfl
      | ok added => rfl
  | refreshing total =>
      refine (start_redis_bind (.expire (resultsKey reply) taskGroupTtlSeconds) _ ()).trans ?_
      simp only [point]
      congr 1
      funext answer
      cases answer with
      | error message => rfl
      | ok refreshed => rfl
  | counting total =>
      refine (start_redis_bind (countCommand reply) _ ()).trans ?_
      simp only [point]
      congr 1
      funext answer
      cases answer with
      | error message => rfl
      | ok completed =>
          simp only [afterCount]
          split
          · rfl
          · rfl
  | finished outcome => rfl
  | failed message => rfl

def staging : Staging effects JoinStage JoinOutcome where
  program := program reply
  point := point reply
  program_eq stage := by
    rw [program_eq reply stage]
    cases point reply stage with
    | finished value => rfl
    | awaiting op next => rfl

def isFinished : JoinStage → Bool
  | .finished _ => true
  | _ => false

def hasStored : JoinStage → Bool
  | .refreshing _ => true
  | .counting _ => true
  | .finished _ => true
  | _ => false

def Sane (count : Nat) : JoinStage → Prop
  | .readingTotal => True
  | .readingAborted total => total.parseInt = some (count : Int)
  | .storing total => total.parseInt = some (count : Int)
  | .refreshing total => total.parseInt = some (count : Int)
  | .counting total => total.parseInt = some (count : Int)
  | .finished outcome => outcome = none ∨ outcome = some waitingForGroupResult
  | .failed _ => False

end JoinStage

/-! ### What every interleaving keeps -/

/-- A group whose fan-out has counted `count` members in and no reply yet. -/
structure LiveGroup (store : RedisStore) (groupId : String) (count : Nat) : Prop where
  total : ∃ value, store.field (.taskGroup groupId) taskGroupFieldTotal = some value ∧
    value.parseInt = some (count : Int)
  notAborted : (store.field (.taskGroup groupId) taskGroupFieldAborted).any Value.truthy = false
  completed : store.field (.taskGroup groupId) taskGroupFieldCompleted = some (.number 0)

section Invariant

variable {count : Nat} {groupId : String} {replies : Fin count → ResumeCommand}
  {store : RedisStore} {stages : Fin count → JoinStage}

/-- The joins that have been counted. -/
def joined (stages : Fin count → JoinStage) : Finset (Fin count) :=
  Finset.univ.filter fun index => (stages index).isFinished = true

theorem mem_joined {index : Fin count} :
    index ∈ joined stages ↔ (stages index).isFinished = true := by
  simp [joined]

theorem JoinStage.hasStored_of_isFinished {stage : JoinStage} (ended : stage.isFinished = true) :
    stage.hasStored = true := by
  cases stage <;> simp_all [isFinished, hasStored]

structure JoinInv (groupId : String) (replies : Fin count → ResumeCommand) (store : RedisStore)
    (stages : Fin count → JoinStage) : Prop where
  total : ∃ value, store.field (.taskGroup groupId) taskGroupFieldTotal = some value ∧
    value.parseInt = some (count : Int)
  notAborted : (store.field (.taskGroup groupId) taskGroupFieldAborted).any Value.truthy = false
  completed : store.field (.taskGroup groupId) taskGroupFieldCompleted =
    some (.number ((joined stages).card : Int))
  sane : ∀ index, (stages index).Sane count
  stored : ∀ index, (stages index).hasStored = true →
    store.field (.taskGroupResults groupId) (replies index).header.parentMessageId =
      some (.result (resultData (replies index)))
  passedLast : ∀ index, stages index = .finished none → (joined stages).card = count
  passedOnce : ∀ left right, stages left = .finished none → stages right = .finished none →
    left = right
  passes : (joined stages).card = count → ∃ index, stages index = .finished none

theorem joined_update_unfinished {index : Fin count} {next : JoinStage}
    (unfinished : (stages index).isFinished = false) (still : next.isFinished = false) :
    joined (Function.update stages index next) = joined stages := by
  ext other
  by_cases equal : other = index
  · subst equal
    simp [joined, unfinished, still]
  · simp [joined, equal]

theorem joined_update_finished {index : Fin count} (outcome : Option AgentTaskResult)
    (unfinished : (stages index).isFinished = false) :
    (joined (Function.update stages index (.finished outcome))).card = (joined stages).card + 1 := by
  have fresh : index ∉ joined stages := by simp [joined, unfinished]
  rw [← Finset.card_insert_of_notMem fresh]
  congr 1
  ext other
  by_cases equal : other = index
  · subst equal
    have ended : (JoinStage.finished outcome).isFinished = true := rfl
    simp [joined, ended]
  · simp [joined, equal]

theorem joined_card_lt {index : Fin count} (unfinished : (stages index).isFinished = false) :
    (joined stages).card < count := by
  have fresh : index ∉ joined stages := by simp [joined, unfinished]
  have bound := Finset.card_lt_univ_of_notMem fresh
  simpa using bound

theorem JoinInv.move {later : RedisStore} {index : Fin count} {next : JoinStage}
    (inv : JoinInv groupId replies store stages)
    (unfinished : (stages index).isFinished = false) (still : next.isFinished = false)
    (group : ∀ name, later.field (.taskGroup groupId) name = store.field (.taskGroup groupId) name)
    (results : ∀ other, (stages other).hasStored = true →
      later.field (.taskGroupResults groupId) (replies other).header.parentMessageId =
        some (.result (resultData (replies other))))
    (own : next.hasStored = true →
      later.field (.taskGroupResults groupId) (replies index).header.parentMessageId =
        some (.result (resultData (replies index))))
    (sane : next.Sane count) :
    JoinInv groupId replies later (Function.update stages index next) := by
  have counted := joined_update_unfinished unfinished still
  have keeps : ∀ other, Function.update stages index next other = .finished none →
      stages other = .finished none := by
    intro other passed
    by_cases equal : other = index
    · subst equal
      simp only [Function.update_self] at passed
      simp [passed, JoinStage.isFinished] at still
    · simpa [equal] using passed
  refine ⟨?_, ?_, ?_, ?_, ?_, ?_, ?_, ?_⟩
  · simpa only [group] using inv.total
  · simpa only [group] using inv.notAborted
  · rw [group, counted]
    exact inv.completed
  · intro other
    by_cases equal : other = index
    · subst equal
      simpa using sane
    · simpa [equal] using inv.sane other
  · intro other stored
    by_cases equal : other = index
    · subst equal
      exact own (by simpa using stored)
    · exact results other (by simpa [equal] using stored)
  · intro other passed
    rw [counted]
    exact inv.passedLast other (keeps other passed)
  · intro left right leftPassed rightPassed
    exact inv.passedOnce left right (keeps left leftPassed) (keeps right rightPassed)
  · intro full
    rw [counted] at full
    exact absurd full (Nat.ne_of_lt (joined_card_lt unfinished))

theorem JoinInv.tally {later : RedisStore} {index : Fin count} {total : Value}
    (inv : JoinInv groupId replies store stages) (stage : stages index = .counting total)
    (group : ∀ name, later.field (.taskGroup groupId) name =
      if name = taskGroupFieldCompleted then some (.number ((joined stages).card + 1 : Int))
      else store.field (.taskGroup groupId) name)
    (results : ∀ name, later.field (.taskGroupResults groupId) name =
      store.field (.taskGroupResults groupId) name) :
    JoinInv groupId replies later (Function.update stages index
      (JoinStage.afterCount total (.ok ((joined stages).card + 1 : Int)))) := by
  have unfinished : (stages index).isFinished = false := by rw [stage]; rfl
  have below := joined_card_lt unfinished
  have parsed : total.parseInt = some (count : Int) := by
    have sane := inv.sane index
    rwa [stage] at sane
  have nobody : ∀ other, stages other ≠ .finished none := by
    intro other passed
    exact Nat.ne_of_lt below (inv.passedLast other passed)
  obtain ⟨outcome, finishes, passesIff⟩ : ∃ outcome,
      JoinStage.afterCount total (.ok ((joined stages).card + 1 : Int)) = .finished outcome ∧
      ((outcome = none ∧ (joined stages).card + 1 = count) ∨
        (outcome = some waitingForGroupResult ∧ (joined stages).card + 1 < count)) := by
    by_cases less : (joined stages).card + 1 < count
    · refine ⟨some waitingForGroupResult, ?_, Or.inr ⟨rfl, less⟩⟩
      have smaller : ((joined stages).card + 1 : Int) < count := by omega
      simp [JoinStage.afterCount, parsed, belowParsed, smaller]
    · refine ⟨none, ?_, Or.inl ⟨rfl, by omega⟩⟩
      have notSmaller : ¬ ((joined stages).card + 1 : Int) < count := by omega
      simp [JoinStage.afterCount, parsed, belowParsed, notSmaller]
  rw [finishes]
  have counted := joined_update_finished outcome unfinished
  have only : ∀ other, Function.update stages index (.finished outcome) other = .finished none →
      other = index ∧ outcome = none := by
    intro other passed
    by_cases equal : other = index
    · subst equal
      exact ⟨rfl, by simpa using passed⟩
    · exact absurd (by simpa [equal] using passed) (nobody other)
  refine ⟨?_, ?_, ?_, ?_, ?_, ?_, ?_, ?_⟩
  · simpa [group, taskGroupFieldTotal, taskGroupFieldCompleted] using inv.total
  · simpa [group, taskGroupFieldAborted, taskGroupFieldCompleted] using inv.notAborted
  · rw [group, counted]
    simp
  · intro other
    by_cases equal : other = index
    · subst equal
      rcases passesIff with ⟨passes, _⟩ | ⟨waits, _⟩
      · simp [JoinStage.Sane, passes]
      · simp [JoinStage.Sane, waits]
    · simpa [equal] using inv.sane other
  · intro other stored
    rw [results]
    by_cases equal : other = index
    · subst equal
      exact inv.stored other (by rw [stage]; rfl)
    · exact inv.stored other (by simpa [equal] using stored)
  · intro other passed
    rw [counted]
    obtain ⟨_, none⟩ := only other passed
    rcases passesIff with ⟨_, full⟩ | ⟨waits, _⟩
    · exact full
    · simp [none] at waits
  · intro left right leftPassed rightPassed
    exact (only left leftPassed).1.trans (only right rightPassed).1.symm
  · intro full
    rw [counted] at full
    rcases passesIff with ⟨passes, _⟩ | ⟨_, less⟩
    · exact ⟨index, by simp [passes]⟩
    · exact absurd full (Nat.ne_of_lt less)

theorem JoinInv.step_readingTotal {index : Fin count} {answer : Except String (Option Value)}
    {later : RedisStore} (inv : JoinInv groupId replies store stages)
    (grouped : (replies index).header.taskGroupId = groupId)
    (stage : stages index = .readingTotal)
    (served : store.exec (.hget (JoinStage.groupKey (replies index)) taskGroupFieldTotal) =
      (answer, later)) :
    JoinInv groupId replies later (Function.update stages index
      (JoinStage.afterTotal (replies index) answer)) := by
  obtain ⟨total, found, parsed⟩ := inv.total
  have read : answer = .ok (some total) ∧ store = later := by
    simp only [Redis.Store.exec, JoinStage.groupKey, grouped, Prod.mk.injEq] at served
    exact ⟨by rw [← served.1, ← found]; rfl, served.2⟩
  obtain ⟨rfl, rfl⟩ := read
  exact inv.move (by rw [stage]; rfl) rfl (fun _ => rfl) inv.stored (by simp [JoinStage.afterTotal,
    JoinStage.hasStored]) parsed

theorem JoinInv.step_readingAborted {index : Fin count} {total : Value}
    {answer : Except String (Option Value)} {later : RedisStore}
    (inv : JoinInv groupId replies store stages)
    (grouped : (replies index).header.taskGroupId = groupId)
    (stage : stages index = .readingAborted total)
    (served : store.exec (.hget (JoinStage.groupKey (replies index)) taskGroupFieldAborted) =
      (answer, later)) :
    JoinInv groupId replies later (Function.update stages index
      (JoinStage.afterAborted total answer)) := by
  have read : answer = .ok (store.field (.taskGroup groupId) taskGroupFieldAborted) ∧
      store = later := by
    simp only [Redis.Store.exec, JoinStage.groupKey, grouped, Prod.mk.injEq] at served
    exact ⟨served.1.symm, served.2⟩
  obtain ⟨rfl, rfl⟩ := read
  have continues : JoinStage.afterAborted total
      (.ok (store.field (.taskGroup groupId) taskGroupFieldAborted)) = .storing total := by
    simp [JoinStage.afterAborted, inv.notAborted]
  have sane := inv.sane index
  rw [stage] at sane
  rw [continues]
  exact inv.move (by rw [stage]; rfl) rfl (fun _ => rfl) inv.stored (by simp [JoinStage.hasStored])
    sane

theorem JoinInv.step_storing {index : Fin count} {total : Value} {answer : Except String Nat}
    {later : RedisStore} (inv : JoinInv groupId replies store stages)
    (grouped : ∀ index, (replies index).header.taskGroupId = groupId)
    (distinct : Function.Injective fun index => (replies index).header.parentMessageId)
    (stage : stages index = .storing total)
    (served : store.exec (JoinStage.storeCommand (replies index)) = (answer, later)) :
    JoinInv groupId replies later (Function.update stages index
      (JoinStage.afterStore total answer)) := by
  have fields := Redis.Store.field_hset store (JoinStage.resultsKey (replies index))
  have succeeds : ∃ added, answer = .ok added := by
    simp only [JoinStage.storeCommand, Redis.Store.exec, Prod.mk.injEq] at served
    exact ⟨_, served.1.symm⟩
  obtain ⟨added, rfl⟩ := succeeds
  obtain rfl : (store.exec (JoinStage.storeCommand (replies index))).2 = later := by rw [served]
  have sane := inv.sane index
  rw [stage] at sane
  refine inv.move (by rw [stage]; rfl) rfl (fun name => ?_) (fun other stored => ?_) (fun _ => ?_)
    sane
  · rw [JoinStage.storeCommand, fields]
    simp [JoinStage.resultsKey]
  · rw [JoinStage.storeCommand, fields]
    by_cases equal : other = index
    · subst equal
      simp [JoinStage.resultsKey, grouped]
    · have apart : (replies other).header.parentMessageId ≠
          (replies index).header.parentMessageId := fun same => equal (distinct same)
      simpa [JoinStage.resultsKey, grouped, apart] using inv.stored other stored
  · rw [JoinStage.storeCommand, fields]
    simp [JoinStage.resultsKey, grouped]

theorem JoinInv.step_refreshing {index : Fin count} {total : Value} {answer : Except String Bool}
    {later : RedisStore} (inv : JoinInv groupId replies store stages)
    (stage : stages index = .refreshing total)
    (served : store.exec (.expire (JoinStage.resultsKey (replies index)) taskGroupTtlSeconds) =
      (answer, later)) :
    JoinInv groupId replies later (Function.update stages index
      (JoinStage.afterExpire total answer)) := by
  have fields := Redis.Store.field_expire store (JoinStage.resultsKey (replies index))
  have succeeds : ∃ refreshed, answer = .ok refreshed := by
    simp only [Redis.Store.exec] at served
    split at served <;> exact ⟨_, (Prod.mk.inj served).1.symm⟩
  obtain ⟨refreshed, rfl⟩ := succeeds
  obtain rfl : (store.exec (.expire (JoinStage.resultsKey (replies index))
    taskGroupTtlSeconds)).2 = later := by rw [served]
  have sane := inv.sane index
  rw [stage] at sane
  refine inv.move (by rw [stage]; rfl) rfl (fun name => fields _ _ name) (fun other stored => ?_)
    (fun _ => ?_) sane
  · rw [fields]
    exact inv.stored other stored
  · rw [fields]
    exact inv.stored index (by rw [stage]; rfl)

theorem JoinInv.step_counting {index : Fin count} {total : Value} {answer : Except String Int}
    {later : RedisStore} (inv : JoinInv groupId replies store stages)
    (grouped : (replies index).header.taskGroupId = groupId)
    (stage : stages index = .counting total)
    (served : store.exec (JoinStage.countCommand (replies index)) = (answer, later)) :
    JoinInv groupId replies later (Function.update stages index
      (JoinStage.afterCount total answer)) := by
  have current : store.field (JoinStage.groupKey (replies index)) taskGroupFieldCompleted =
      some (.number ((joined stages).card : Int)) := by
    rw [JoinStage.groupKey, grouped]
    exact inv.completed
  have fields := fun other query => Redis.Store.field_hincrby store _ other
    taskGroupFieldCompleted query 1 _ _ current rfl
  have answered : (store.exec (JoinStage.countCommand (replies index))).1 =
      .ok ((joined stages).card + 1 : Int) :=
    congrArg Prod.fst (Redis.Store.exec_hincrby store _ taskGroupFieldCompleted 1 _ _ current rfl)
  obtain rfl : .ok ((joined stages).card + 1 : Int) = answer :=
    answered.symm.trans (congrArg Prod.fst served)
  obtain rfl : (store.exec (JoinStage.countCommand (replies index))).2 = later := by rw [served]
  refine inv.tally stage (fun name => ?_) (fun name => ?_)
  · rw [JoinStage.countCommand, fields]
    simp [JoinStage.groupKey, grouped, Redis.Counting.ofInt]
  · rw [JoinStage.countCommand, fields]
    simp [JoinStage.groupKey]

theorem JoinInv.step {index : Fin count} {op : Op} {next : op.Reply → JoinStage}
    {answer : op.Reply} {later : RedisStore} (inv : JoinInv groupId replies store stages)
    (grouped : ∀ index, (replies index).header.taskGroupId = groupId)
    (distinct : Function.Injective fun index => (replies index).header.parentMessageId)
    (awaiting : (stages index).point (replies index) = .awaiting op next)
    (served : redisServe store op answer later) :
    JoinInv groupId replies later (Function.update stages index (next answer)) := by
  cases stage : stages index with
  | readingTotal =>
      simp only [stage, JoinStage.point] at awaiting
      cases awaiting
      exact inv.step_readingTotal (grouped index) stage served
  | readingAborted total =>
      simp only [stage, JoinStage.point] at awaiting
      cases awaiting
      exact inv.step_readingAborted (grouped index) stage served
  | storing total =>
      simp only [stage, JoinStage.point] at awaiting
      cases awaiting
      exact inv.step_storing grouped distinct stage served
  | refreshing total =>
      simp only [stage, JoinStage.point] at awaiting
      cases awaiting
      exact inv.step_refreshing stage served
  | counting total =>
      simp only [stage, JoinStage.point] at awaiting
      cases awaiting
      exact inv.step_counting (grouped index) stage served
  | finished outcome => simp [stage, JoinStage.point] at awaiting
  | failed message => simp [stage, JoinStage.point] at awaiting

theorem LiveGroup.initial (live : LiveGroup store groupId count) (positive : 0 < count) :
    JoinInv groupId replies store (fun _ => .readingTotal) where
  total := live.total
  notAborted := live.notAborted
  completed := by
    rw [live.completed]
    simp [joined, JoinStage.isFinished]
  sane _ := trivial
  stored _ already := by simp [JoinStage.hasStored] at already
  passedLast _ passed := by simp at passed
  passedOnce _ _ passed := by simp at passed
  passes full := by
    simp [joined, JoinStage.isFinished] at full
    omega

def JoinStage.remaining : JoinStage → Nat
  | .readingTotal => 5
  | .readingAborted _ => 4
  | .storing _ => 3
  | .refreshing _ => 2
  | .counting _ => 1
  | .finished _ => 0
  | .failed _ => 0

theorem JoinStage.remaining_lt {reply : ResumeCommand} {stage : JoinStage} {op : Op}
    {next : op.Reply → JoinStage} (awaiting : stage.point reply = .awaiting op next)
    (answer : op.Reply) : (next answer).remaining < stage.remaining := by
  cases stage with
  | readingTotal =>
      simp only [point] at awaiting
      cases awaiting
      rcases answer with message | _ | total <;> simp [afterTotal, remaining]
  | readingAborted total =>
      simp only [point] at awaiting
      cases awaiting
      cases answer with
      | error message => simp [afterAborted, remaining]
      | ok aborted =>
          simp only [afterAborted]
          split <;> simp [remaining]
  | storing total =>
      simp only [point] at awaiting
      cases awaiting
      cases answer <;> simp [afterStore, remaining]
  | refreshing total =>
      simp only [point] at awaiting
      cases awaiting
      cases answer <;> simp [afterExpire, remaining]
  | counting total =>
      simp only [point] at awaiting
      cases awaiting
      cases answer with
      | error message => simp [afterCount, remaining]
      | ok completed =>
          simp only [afterCount]
          split <;> simp [remaining]
  | finished outcome => simp [point] at awaiting
  | failed message => simp [point] at awaiting

theorem passed_iff {config : Config effects RedisStore (Fin count) JoinOutcome}
    (stands : StandsAt (fun index => JoinStage.staging (replies index)) config stages)
    (index : Fin count) : Passed config index ↔ stages index = .finished none := by
  rw [Passed, stands.result index]
  cases stage : stages index <;> simp [JoinStage.staging, JoinStage.point]

theorem waits_of_finished {config : Config effects RedisStore (Fin count) JoinOutcome}
    (stands : StandsAt (fun index => JoinStage.staging (replies index)) config stages)
    {index : Fin count} (stage : stages index = .finished (some waitingForGroupResult)) :
    Waits config index := by
  rw [Waits, stands.result index, stage]
  rfl

theorem JoinInv.all_joined {config : Config effects RedisStore (Fin count) JoinOutcome}
    (inv : JoinInv groupId replies store stages)
    (stands : StandsAt (fun index => JoinStage.staging (replies index)) config stages)
    (returned : ∀ index, (config.result index).isSome = true) :
    (joined stages).card = count := by
  have everyone : joined stages = Finset.univ := by
    refine Finset.eq_univ_iff_forall.mpr fun index => ?_
    have result := returned index
    have sane := inv.sane index
    rw [stands.result index] at result
    cases stage : stages index with
    | finished outcome => exact mem_joined.mpr (by rw [stage]; rfl)
    | failed message => simp [stage, JoinStage.Sane] at sane
    | _ => simp [stage, JoinStage.staging, JoinStage.point] at result
  rw [everyone, Finset.card_univ, Fintype.card_fin]

end Invariant

/-- Whatever the interleaving, one join passes, and it finds the results of all members. -/
theorem group_join_exactly_once {count : Nat} (positive : 0 < count) (store : RedisStore)
    (groupId : String) (replies : Fin count → ResumeCommand)
    (live : LiveGroup store groupId count)
    (grouped : ∀ index, (replies index).header.taskGroupId = groupId)
    (distinct : Function.Injective fun index => (replies index).header.parentMessageId)
    (last : Config effects RedisStore (Fin count) JoinOutcome)
    (reaches : Reaches (joinWorld _) (fun _ _ => True) (groupJoins store replies) last) :
    (∀ index, Passed last index → ∀ member,
      last.state.field (.taskGroupResults groupId) (replies member).header.parentMessageId =
        some (.result (resultData (replies member)))) ∧
    (∀ left right, Passed last left → Passed last right → left = right) ∧
    ((∀ index, (last.result index).isSome = true) → ∃ index, Passed last index ∧
      (∀ other, other ≠ index → Waits last other) ∧
      last.state.field (.taskGroup groupId) taskGroupFieldCompleted =
        some (.number (count : Int))) ∧
    ∃ finish, Reaches (joinWorld _) (fun _ _ => True) last finish ∧
      ∀ index, (finish.result index).isSome = true := by
  have stands : StandsAt (fun index => JoinStage.staging (replies index))
      (groupJoins store replies) (fun _ => .readingTotal) := fun _ => rfl
  obtain ⟨stages, standing, inv⟩ := stands.invariant
    (fun state stages => JoinInv groupId replies state stages) (live.initial positive) reaches
    fun config stages index op next answer after _ inv _ awaiting served =>
      inv.step grouped distinct awaiting served
  refine ⟨fun index passed member => ?_, fun left right leftPassed rightPassed => ?_,
    fun returned => ?_, ?_⟩
  · have full := inv.passedLast index ((passed_iff standing index).mp passed)
    have everyone : joined stages = Finset.univ :=
      Finset.eq_univ_of_card _ (by rw [full, Fintype.card_fin])
    have counted : member ∈ joined stages := everyone ▸ Finset.mem_univ member
    exact inv.stored member (JoinStage.hasStored_of_isFinished (mem_joined.mp counted))
  · exact inv.passedOnce left right ((passed_iff standing left).mp leftPassed)
      ((passed_iff standing right).mp rightPassed)
  · have full := inv.all_joined standing returned
    obtain ⟨index, passes⟩ := inv.passes full
    refine ⟨index, (passed_iff standing index).mpr passes, fun other differ => ?_, ?_⟩
    · refine waits_of_finished standing ?_
      have result := returned other
      rw [standing.result other] at result
      have sane := inv.sane other
      cases stage : stages other with
      | finished outcome =>
          rw [stage] at sane
          rcases sane with rfl | rfl
          · exact absurd (inv.passedOnce other index stage passes) differ
          · rfl
      | failed message => simp [stage, JoinStage.Sane] at sane
      | _ => simp [stage, JoinStage.staging, JoinStage.point] at result
    · rw [inv.completed, full]
  · exact standing.completes (fun _ => JoinStage.remaining)
      (fun index stage op next answer awaiting => JoinStage.remaining_lt awaiting answer)
      (fun state op => ⟨_, _, redisAnswer_serves state op⟩)

/-! ### A group of two -/

def pairReply (index : Fin 2) : ResumeCommand where
  header :=
    { messageId := "msg-caller"
      sessionId := "session"
      traceId := "trace"
      sourceAgentType := "callee"
      targetAgentType := "caller"
      parentMessageId := if index = formerTask then "msg-first" else "msg-second"
      taskGroupId := "tg-pair" }
  status := AgentState.completed
  nonEmpty := Or.inl (by decide)

def pairStore : RedisStore :=
  (Redis.Store.empty.exec (.hset (.taskGroup "tg-pair")
    [(taskGroupFieldTotal, .text "2"), (taskGroupFieldCompleted, .number 0)])).2

def pairRun : Config effects RedisStore (Fin 2) JoinOutcome :=
  runSchedule redisAnswer (groupJoins pairStore pairReply)
    [formerTask, latterTask, formerTask, latterTask, formerTask, latterTask, latterTask,
      latterTask, formerTask, formerTask]

theorem pairRun_reaches : Reaches (joinWorld _) (fun _ _ => True)
    (groupJoins pairStore pairReply) pairRun := by
  have permitted : scheduleOk redisAnswer (fun _ _ => true) (groupJoins pairStore pairReply)
      [0, 1, 0, 1, 0, 1, 1, 1, 0, 0] = true := by
    decide +kernel
  have run := runSchedule_reaches (joinWorld (Fin 2)) redisAnswer redisAnswer_serves
    (fun _ _ => true) (groupJoins pairStore pairReply) _ permitted
  exact run.mono fun _ _ _ => trivial

theorem pairStore_live : LiveGroup pairStore "tg-pair" 2 where
  total := ⟨.text "2", by rfl, by decide +kernel⟩
  notAborted := by rfl
  completed := by rfl

theorem group_join_pair : ∃ index, Passed pairRun index ∧
    (∀ other, other ≠ index → Waits pairRun other) ∧
    pairRun.state.field (.taskGroup "tg-pair") taskGroupFieldCompleted = some (.number 2) := by
  have joins := group_join_exactly_once (by decide) pairStore "tg-pair" pairReply pairStore_live
    (by decide) (by decide) pairRun pairRun_reaches
  exact joins.2.2.1 (by decide +kernel)

end ByFramework
