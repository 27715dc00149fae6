import Mathlib.Logic.Function.Basic
import Mathlib.Algebra.Order.BigOperators.Group.Finset
import ByFramework.Async.Logic

/-!
Pools of tasks that share a state and interleave one operation at a time, in any order.
-/

namespace Async

/-- What surrounds a pool: who answers operations, and what starts, stops and lapses. -/
structure World (sig : Signature) (State ι ρ : Type) where
  serve : State → (op : sig.Op) → sig.Reply op → State → Prop
  start : State → ι → Prog sig ρ → State → Prop
  stop : State → ι → Prog sig ρ → State → Prop
  lapse : State → State → Prop

def World.closed {sig : Signature} {State ι ρ : Type}
    (serve : State → (op : sig.Op) → sig.Reply op → State → Prop) : World sig State ι ρ where
  serve := serve
  start _ _ _ _ := False
  stop _ _ _ _ := False
  lapse _ _ := False

structure Config (sig : Signature) (State ι ρ : Type) where
  state : State
  task : ι → Option (Prog sig ρ)

inductive Event (sig : Signature) (ι : Type) where
  | issue (index : ι) (op : sig.Op) (reply : sig.Reply op)
  | start (index : ι)
  | stop (index : ι)
  | lapse

variable {sig : Signature} {State ι ρ Stage : Type} [DecidableEq ι]

def Config.result (config : Config sig State ι ρ) (index : ι) : Option ρ :=
  match config.task index with
  | some (.done value) => some value
  | _ => none

omit [DecidableEq ι] in
theorem Config.task_of_result {config : Config sig State ι ρ} {index : ι} {value : ρ}
    (returned : config.result index = some value) : config.task index = some (.done value) := by
  unfold Config.result at returned
  split at returned
  · rename_i other found
    cases returned
    exact found
  · cases returned

def Config.Awaits (config : Config sig State ι ρ) (index : ι) (op : sig.Op) : Prop :=
  ∃ resume, config.task index = some (.call op resume)

inductive Step (world : World sig State ι ρ) (config : Config sig State ι ρ) :
    Event sig ι → Config sig State ι ρ → Prop
  | issue {index op resume reply after} :
      config.task index = some (.call op resume) → world.serve config.state op reply after →
      Step world config (.issue index op reply)
        ⟨after, Function.update config.task index (some (resume reply))⟩
  | start {index program after} :
      config.task index = none → world.start config.state index program after →
      Step world config (.start index)
        ⟨after, Function.update config.task index (some program)⟩
  | stop {index program after} :
      config.task index = some program → world.stop config.state index program after →
      Step world config (.stop index) ⟨after, Function.update config.task index none⟩
  | lapse {after} :
      world.lapse config.state after → Step world config .lapse ⟨after, config.task⟩

def Event.index : Event sig ι → Option ι
  | .issue index _ _ | .start index | .stop index => some index
  | .lapse => none

theorem Step.awaits {world : World sig State ι ρ} {before after : Config sig State ι ρ}
    {event : Event sig ι} {index : ι} {op : sig.Op} (step : Step world before event after)
    (awaits : after.Awaits index op) (other : event.index ≠ some index) :
    before.Awaits index op := by
  obtain ⟨resume, found⟩ := awaits
  refine ⟨resume, ?_⟩
  cases step with
  | lapse lapsed => exact found
  | _ =>
      have different : index ≠ _ := fun same => other (congrArg some same.symm)
      simpa [Function.update_of_ne different] using found

inductive Reaches (world : World sig State ι ρ)
    (permits : Config sig State ι ρ → Event sig ι → Prop) (first : Config sig State ι ρ) :
    Config sig State ι ρ → Prop
  | refl : Reaches world permits first first
  | step {middle event last} : Reaches world permits first middle → permits middle event →
      Step world middle event last → Reaches world permits first last

theorem Reaches.trans {world : World sig State ι ρ}
    {permits : Config sig State ι ρ → Event sig ι → Prop} {first middle last}
    (left : Reaches world permits first middle) (right : Reaches world permits middle last) :
    Reaches world permits first last := by
  induction right with
  | refl => exact left
  | step _ permitted step ih => exact ih.step permitted step

theorem Reaches.mono {world : World sig State ι ρ}
    {narrow wide : Config sig State ι ρ → Event sig ι → Prop} {first last}
    (reaches : Reaches world narrow first last)
    (widens : ∀ config event, narrow config event → wide config event) :
    Reaches world wide first last := by
  induction reaches with
  | refl => exact .refl
  | step _ permitted step ih => exact ih.step (widens _ _ permitted) step

/-- Runs that issue the given events, in order. -/
inductive Runs (world : World sig State ι ρ)
    (permits : Config sig State ι ρ → Event sig ι → Prop) (first : Config sig State ι ρ) :
    List (Event sig ι) → Config sig State ι ρ → Prop
  | refl : Runs world permits first [] first
  | step {events middle event last} : Runs world permits first events middle →
      permits middle event → Step world middle event last →
      Runs world permits first (events ++ [event]) last

theorem Runs.cons {world : World sig State ι ρ}
    {permits : Config sig State ι ρ → Event sig ι → Prop} {first middle last event events}
    (permitted : permits first event) (step : Step world first event middle)
    (rest : Runs world permits middle events last) :
    Runs world permits first (event :: events) last := by
  induction rest with
  | refl => exact Runs.refl.step permitted step
  | step _ later further ih => exact ih.step later further

theorem Runs.mono {world : World sig State ι ρ}
    {narrow wide : Config sig State ι ρ → Event sig ι → Prop} {first last events}
    (runs : Runs world narrow first events last)
    (widens : ∀ config event, narrow config event → wide config event) :
    Runs world wide first events last := by
  induction runs with
  | refl => exact .refl
  | step _ permitted step ih => exact ih.step (widens _ _ permitted) step

theorem Runs.append {world : World sig State ι ρ}
    {permits : Config sig State ι ρ → Event sig ι → Prop} {first middle last past events}
    (left : Runs world permits first past middle) (right : Runs world permits middle events last) :
    Runs world permits first (past ++ events) last := by
  induction right with
  | refl => simpa using left
  | step _ permitted step ih =>
      rw [← List.append_assoc]
      exact ih.step permitted step

theorem Runs.reaches {world : World sig State ι ρ}
    {permits : Config sig State ι ρ → Event sig ι → Prop} {first last events}
    (runs : Runs world permits first events last) : Reaches world permits first last := by
  induction runs with
  | refl => exact .refl
  | step _ permitted step ih => exact ih.step permitted step

/-- What holds at first and survives each permitted step holds throughout, history included. -/
theorem Runs.invariant {world : World sig State ι ρ}
    {permits : Config sig State ι ρ → Event sig ι → Prop} {first last events}
    (fact : List (Event sig ι) → Config sig State ι ρ → Prop)
    (runs : Runs world permits first events last) (initial : fact [] first)
    (kept : ∀ past before event after, fact past before → permits before event →
      Step world before event after → fact (past ++ [event]) after) : fact events last := by
  induction runs with
  | refl => exact initial
  | step _ permitted step ih => exact kept _ _ _ _ ih permitted step

/-- A program cut at its operations: a stage has returned or awaits one operation. -/
inductive Point (sig : Signature) (Stage ρ : Type) where
  | finished (value : ρ)
  | awaiting (op : sig.Op) (next : sig.Reply op → Stage)

structure Staging (sig : Signature) (Stage ρ : Type) where
  program : Stage → Prog sig ρ
  point : Stage → Point sig Stage ρ
  program_eq : ∀ stage, program stage = match point stage with
    | .finished value => .done value
    | .awaiting op next => .call op fun reply => program (next reply)

def StandsAt (staging : ι → Staging sig Stage ρ) (config : Config sig State ι ρ)
    (stages : ι → Stage) : Prop :=
  ∀ index, config.task index = some ((staging index).program (stages index))

omit [DecidableEq ι] in
theorem StandsAt.result {staging : ι → Staging sig Stage ρ} {config : Config sig State ι ρ}
    {stages : ι → Stage} (stands : StandsAt staging config stages) (index : ι) :
    config.result index = match (staging index).point (stages index) with
      | .finished value => some value
      | .awaiting _ _ => none := by
  simp only [Config.result, stands index]
  rw [(staging index).program_eq]
  cases (staging index).point (stages index) with
  | finished value => rfl
  | awaiting op next => rfl

theorem StandsAt.step {staging : ι → Staging sig Stage ρ}
    {serve : State → (op : sig.Op) → sig.Reply op → State → Prop}
    {before after : Config sig State ι ρ} {event : Event sig ι} {stages : ι → Stage}
    (stands : StandsAt staging before stages) (step : Step (World.closed serve) before event after) :
    ∃ index op next reply, event = .issue index op reply ∧
      (staging index).point (stages index) = .awaiting op next ∧
      serve before.state op reply after.state ∧
      StandsAt staging after (Function.update stages index (next reply)) := by
  cases step with
  | @issue index op resume reply later found served =>
      have program := stands index
      rw [found, (staging index).program_eq] at program
      cases reached : (staging index).point (stages index) with
      | finished value => simp [reached] at program
      | awaiting awaited next =>
          simp only [reached, Option.some.injEq, Prog.call.injEq] at program
          obtain ⟨rfl, same⟩ := program
          obtain rfl := eq_of_heq same
          refine ⟨index, op, next, reply, rfl, reached, served, fun other => ?_⟩
          by_cases equal : other = index
          · subst equal
            simp
          · simp [equal, stands other]
  | start _ started => exact started.elim
  | stop _ stopped => exact stopped.elim
  | lapse lapsed => exact lapsed.elim

theorem StandsAt.invariant {staging : ι → Staging sig Stage ρ}
    {serve : State → (op : sig.Op) → sig.Reply op → State → Prop}
    {permits : Config sig State ι ρ → Event sig ι → Prop}
    (fact : State → (ι → Stage) → Prop) {first last : Config sig State ι ρ}
    {stages : ι → Stage} (stands : StandsAt staging first stages)
    (initial : fact first.state stages)
    (reaches : Reaches (World.closed serve) permits first last)
    (kept : ∀ config stages index op next reply after, StandsAt staging config stages →
      fact config.state stages → permits config (.issue index op reply) →
      (staging index).point (stages index) = .awaiting op next →
      serve config.state op reply after →
      fact after (Function.update stages index (next reply))) :
    ∃ reached, StandsAt staging last reached ∧ fact last.state reached := by
  induction reaches with
  | refl => exact ⟨stages, stands, initial⟩
  | step _ permitted step ih =>
      obtain ⟨current, standing, holds⟩ := ih
      obtain ⟨index, op, next, reply, rfl, awaiting, served, moved⟩ := standing.step step
      exact ⟨_, moved, kept _ current index op next reply _ standing holds permitted awaiting
        served⟩

theorem StandsAt.completes [Fintype ι] {staging : ι → Staging sig Stage ρ}
    {serve : State → (op : sig.Op) → sig.Reply op → State → Prop} (rank : ι → Stage → Nat)
    (shrinks : ∀ index stage op next reply, (staging index).point stage = .awaiting op next →
      rank index (next reply) < rank index stage)
    (answers : ∀ state op, ∃ reply after, serve state op reply after)
    {config : Config sig State ι ρ} {stages : ι → Stage}
    (stands : StandsAt staging config stages) :
    ∃ last, Reaches (World.closed serve) (fun _ _ => True) config last ∧
      ∀ index, (last.result index).isSome = true := by
  generalize total : ∑ index, rank index (stages index) = bound
  induction bound using Nat.strong_induction_on generalizing config stages with
  | _ bound ih =>
      by_cases finished : ∀ index, (config.result index).isSome = true
      · exact ⟨config, .refl, finished⟩
      · obtain ⟨index, running⟩ := not_forall.mp finished
        rw [stands.result index] at running
        cases reached : (staging index).point (stages index) with
        | finished value => simp [reached] at running
        | awaiting op next =>
            obtain ⟨reply, after, served⟩ := answers config.state op
            have found : config.task index =
                some (.call op fun reply => (staging index).program (next reply)) := by
              rw [stands index, (staging index).program_eq, reached]
            have moved : StandsAt staging
                ⟨after, Function.update config.task index
                  (some ((staging index).program (next reply)))⟩
                (Function.update stages index (next reply)) := by
              intro other
              by_cases equal : other = index
              · subst equal
                simp
              · simp [equal, stands other]
            have less : ∑ other, rank other (Function.update stages index (next reply) other) <
                bound := by
              rw [← total]
              refine Finset.sum_lt_sum (fun other _ => ?_) ⟨index, Finset.mem_univ index, ?_⟩
              · by_cases equal : other = index
                · subst equal
                  simpa using (shrinks other _ op next reply reached).le
                · simp [equal]
              · simpa using shrinks index _ op next reply reached
            obtain ⟨last, reaches, all⟩ := ih _ less moved rfl
            exact ⟨last, (Reaches.refl.step trivial (.issue found served)).trans reaches, all⟩

def formerTask : Fin 2 := 0

def latterTask : Fin 2 := 1

/-- Let the given tasks move in order, each operation answered by `answer`. -/
def runSchedule (answer : State → (op : sig.Op) → sig.Reply op × State) :
    Config sig State ι ρ → List ι → Config sig State ι ρ
  | config, [] => config
  | config, index :: rest =>
      match config.task index with
      | some (.call op resume) =>
          let served := answer config.state op
          runSchedule answer
            ⟨served.2, Function.update config.task index (some (resume served.1))⟩ rest
      | _ => runSchedule answer config rest

/-- Every step that `runSchedule` takes is permitted. -/
def scheduleOk (answer : State → (op : sig.Op) → sig.Reply op × State)
    (permits : Config sig State ι ρ → Event sig ι → Bool) :
    Config sig State ι ρ → List ι → Bool
  | _, [] => true
  | config, index :: rest =>
      match config.task index with
      | some (.call op resume) =>
          let served := answer config.state op
          permits config (.issue index op served.1) && scheduleOk answer permits
            ⟨served.2, Function.update config.task index (some (resume served.1))⟩ rest
      | _ => scheduleOk answer permits config rest

/-- The events of `runSchedule`. -/
def scheduleEvents (answer : State → (op : sig.Op) → sig.Reply op × State) :
    Config sig State ι ρ → List ι → List (Event sig ι)
  | _, [] => []
  | config, index :: rest =>
      match config.task index with
      | some (.call op resume) =>
          let served := answer config.state op
          .issue index op served.1 :: scheduleEvents answer
            ⟨served.2, Function.update config.task index (some (resume served.1))⟩ rest
      | _ => scheduleEvents answer config rest

section Schedule

variable (world : World sig State ι ρ) (answer : State → (op : sig.Op) → sig.Reply op × State)
  (served : ∀ state op, world.serve state op (answer state op).1 (answer state op).2)

include served

theorem runSchedule_runs (permits : Config sig State ι ρ → Event sig ι → Bool)
    (config : Config sig State ι ρ) (schedule : List ι)
    (permitted : scheduleOk answer permits config schedule = true) :
    Runs world (fun config event => permits config event = true) config
      (scheduleEvents answer config schedule) (runSchedule answer config schedule) := by
  induction schedule generalizing config with
  | nil => exact .refl
  | cons index rest ih =>
      unfold scheduleOk at permitted
      unfold scheduleEvents runSchedule
      split at permitted
      next op resume found =>
        simp only [Bool.and_eq_true] at permitted
        exact Runs.cons permitted.1 (.issue found (served config.state op)) (ih _ permitted.2)
      next => exact ih config permitted

theorem runSchedule_reaches (permits : Config sig State ι ρ → Event sig ι → Bool)
    (config : Config sig State ι ρ) (schedule : List ι)
    (permitted : scheduleOk answer permits config schedule = true) :
    Reaches world (fun config event => permits config event = true) config
      (runSchedule answer config schedule) :=
  (runSchedule_runs world answer served permits config schedule permitted).reaches

theorem runSchedule_move {permits : Config sig State ι ρ → Event sig ι → Prop}
    (config : Config sig State ι ρ) (index : ι) (permitted : ∀ event, permits config event) :
    Runs world permits config (scheduleEvents answer config [index])
      (runSchedule answer config [index]) := by
  unfold scheduleEvents runSchedule
  split
  next op resume found =>
    exact Runs.cons (permitted _) (.issue found (served config.state op)) .refl
  next => exact .refl

end Schedule

end Async
