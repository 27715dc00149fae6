import ByFramework.Collections.Rotation
import ByFramework.Directory

/-! The turns of the round robin, whatever calls interleave between them. -/

namespace ByFramework

open Async Collections

namespace Directory

section

variable {ι : Type} [DecidableEq ι]

/-- The turns that calls on a client took for a service, in order. -/
def turnsOf (client : DirectoryClient) (serviceName : String) :
    List (Event directoryEffects ι) → List (Option ServiceInstanceData)
  | [] => []
  | .issue _ (.pickNext owner name _) chosen :: rest =>
      if owner = client ∧ name = serviceName then chosen :: turnsOf client serviceName rest
      else turnsOf client serviceName rest
  | _ :: rest => turnsOf client serviceName rest

def counterOf (client : DirectoryClient) (serviceName : String) (directory : Directory) : Nat :=
  ((directory.caches client).rrCounters.get? serviceName).getD 0

variable {client : DirectoryClient} {serviceName : String} {mayFail : Prop}

omit [DecidableEq ι] in
theorem turnsOf_append (events : List (Event directoryEffects ι))
    (event : Event directoryEffects ι) :
    turnsOf client serviceName (events ++ [event]) =
      turnsOf client serviceName events ++ turnsOf client serviceName [event] := by
  induction events with
  | nil => rfl
  | cons first rest ih =>
      cases first with
      | issue index op reply =>
          cases op with
          | pickNext owner name instances =>
              simp only [List.cons_append, turnsOf]
              split
              · rw [ih]
                rfl
              · exact ih
          | _ => exact ih
      | _ => exact ih

omit [DecidableEq ι] in
theorem turn_of_served {before after : Directory} {index : ι} {op : DirectoryOp} {reply : op.Reply}
    (open_ : op ≠ .clear client) (served : Directory.serve mayFail before op reply after) :
    (∃ instances, op = .pickNext client serviceName instances ∧
        turnsOf client serviceName [.issue index op reply] =
          [instances[counterOf client serviceName before % instances.length]?] ∧
        counterOf client serviceName after = counterOf client serviceName before + 1) ∨
      turnsOf client serviceName [.issue index op reply] = [] ∧
        counterOf client serviceName after = counterOf client serviceName before := by
  cases op with
  | pickNext owner name instances =>
      cases congrArg Prod.fst served
      obtain rfl := congrArg Prod.snd served
      by_cases same : owner = client ∧ name = serviceName
      · obtain ⟨rfl, rfl⟩ := same
        refine .inl ⟨instances, rfl, if_pos ⟨rfl, rfl⟩, ?_⟩
        simp [counterOf, Directory.answer, Directory.withCache, InsertionMap.get?_set_self]
      · refine .inr ⟨if_neg same, ?_⟩
        by_cases own : owner = client
        · subst own
          have apart : serviceName ≠ name := fun other => same ⟨rfl, other.symm⟩
          simp [counterOf, Directory.answer, Directory.withCache,
            InsertionMap.get?_set_ne _ apart]
        · simp [counterOf, Directory.answer, Directory.withCache, Ne.symm own]
  | keep owner name instances =>
      obtain rfl := congrArg Prod.snd served
      refine .inr ⟨rfl, ?_⟩
      by_cases own : owner = client
      · subst own
        simp [counterOf, Directory.answer, Directory.withCache]
      · simp [counterOf, Directory.answer, Directory.withCache, Ne.symm own]
  | clear owner =>
      obtain rfl := congrArg Prod.snd served
      have own : owner ≠ client := fun same => open_ (congrArg _ same)
      refine .inr ⟨rfl, ?_⟩
      simp [counterOf, Directory.answer, Directory.withCache, Ne.symm own]
  | _ =>
      refine .inr ⟨rfl, ?_⟩
      rcases after_of_served served with rfl | rfl <;> rfl

theorem turnsOf_run {calls : ι → DirectoryCall} {events : List (Event directoryEffects ι)}
    {first last : Config directoryEffects Directory ι
      (Except JsError (List ServiceInstanceData) × Unit)} {instances : List ServiceInstanceData}
    (runs : Runs (directoryWorld mayFail calls) (fun _ _ => True) first events last)
    (steady : ∀ index offered chosen,
      .issue index (.pickNext client serviceName offered) chosen ∈ events → offered = instances)
    (open_ : ∀ index reply, .issue index (.clear client) reply ∉ events) :
    turnsOf client serviceName events = rotation instances
        (counterOf client serviceName first.state) (turnsOf client serviceName events).length ∧
      counterOf client serviceName last.state =
        counterOf client serviceName first.state + (turnsOf client serviceName events).length := by
  induction runs with
  | refl => exact ⟨rfl, rfl⟩
  | @step past middle event final _ _ step ih =>
      obtain ⟨turns, counted⟩ := ih
        (fun index offered chosen inside =>
          steady index offered chosen (List.mem_append_left _ inside))
        (fun index reply inside => open_ index reply (List.mem_append_left _ inside))
      have isLast : event ∈ past ++ [event] := List.mem_append_right _ (List.mem_singleton.mpr rfl)
      rw [turnsOf_append]
      cases step with
      | @issue index op resume reply after found served =>
          have opened : op ≠ .clear client := by
            rintro rfl
            exact open_ index reply isLast
          rcases @turn_of_served ι client serviceName _ _ _ index _ _ opened served with
            ⟨offered, rfl, turn, counter⟩ | ⟨turn, counter⟩
          · obtain rfl := steady index offered reply isLast
            rw [turn, List.length_append, List.length_singleton, rotation_succ, ← turns, counter,
              counted]
            exact ⟨rfl, by omega⟩
          · rw [turn, List.append_nil, counter]
            exact ⟨turns, counted⟩
      | start free started =>
          obtain ⟨-, rfl⟩ := started
          exact ⟨by simpa [turnsOf] using turns, by simpa [turnsOf] using counted⟩
      | stop found stopped =>
          obtain rfl := stopped
          exact ⟨by simpa [turnsOf] using turns, by simpa [turnsOf] using counted⟩
      | lapse lapsed =>
          obtain ⟨now, later, rfl⟩ := lapsed
          exact ⟨by simpa [turnsOf] using turns, by simpa [turnsOf, counterOf] using counted⟩

end

end Directory

open Directory

/-- As long as callers of the round robin are offered the same instances, each of them is chosen
its share of times, up to one, and exactly so after whole rounds. -/
theorem round_robin_fair {ι : Type} [DecidableEq ι] {mayFail : Prop} {calls : ι → DirectoryCall}
    {client : DirectoryClient} {serviceName : String} {events : List (Event directoryEffects ι)}
    {first last : Config directoryEffects Directory ι
      (Except JsError (List ServiceInstanceData) × Unit)} {instances : List ServiceInstanceData}
    (runs : Runs (directoryWorld mayFail calls) (fun _ _ => True) first events last)
    (steady : ∀ index offered chosen,
      .issue index (.pickNext client serviceName offered) chosen ∈ events → offered = instances)
    (open_ : ∀ index reply, .issue index (.clear client) reply ∉ events)
    (distinct : instances.Nodup) {data : ServiceInstanceData} (listed : data ∈ instances) :
    let turns := turnsOf client serviceName events
    turns.length / instances.length ≤ turns.count (some data) ∧
      turns.count (some data) ≤ turns.length / instances.length + 1 ∧
      (turns.length % instances.length = 0 →
        turns.count (some data) = turns.length / instances.length) := by
  obtain ⟨turns, -⟩ := turnsOf_run runs steady open_
  dsimp only
  generalize (turnsOf client serviceName events).length = count at turns ⊢
  rw [turns]
  exact count_rotation distinct listed _ _

namespace Directory

def turningMoves : List (Move SearchTask Int) :=
  Move.turn .picks 2 ++ Move.turn .picksToo 3 ++ [.go .picks]

def turningPlay : List (Event directoryEffects SearchTask) × SearchConfig :=
  searchPlayer.play comingPlay.2 turningMoves

def offersBoth : Event directoryEffects SearchTask → Bool
  | .issue _ (.pickNext _ _ offered) _ => decide (offered = [leaverData, stayerData])
  | .issue _ (.clear _) _ => false
  | _ => true

theorem round_robin_fair_search :
    (turnsOf browser "search" turningPlay.1).length = 2 ∧
      (turnsOf browser "search" turningPlay.1).count (some leaverData) = 1 := by
  have runs := search_plays.runs comingPlay.2 turningMoves
  have offers : turningPlay.1.all offersBoth = true := by decide +kernel
  have each := List.all_eq_true.mp offers
  have turns : (turnsOf browser "search" turningPlay.1).length = 2 := by decide +kernel
  have fair := @round_robin_fair SearchTask _ _ _ browser "search" _ _ _ [leaverData, stayerData]
    runs (fun index offered chosen inside => of_decide_eq_true (each _ inside))
    (fun index reply inside => Bool.false_ne_true (each _ inside)) (by decide) leaverData
    (by decide)
  dsimp only at fair
  have exactly := fair.2.2
  change (turnsOf browser "search" turningPlay.1).length % 2 = 0 →
    (turnsOf browser "search" turningPlay.1).count (some leaverData) =
      (turnsOf browser "search" turningPlay.1).length / 2 at exactly
  rw [turns] at exactly
  exact ⟨turns, exactly rfl⟩

end Directory

end ByFramework
