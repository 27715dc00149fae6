import ByFramework.Async.Pool

/-!
Pools of tasks that keep to one contract: what it permits preserves a fact about the shared
state, and while the fact holds no reply comes but the expected ones.
-/

namespace Async

variable {sig : Signature} {State ι ρ : Type} [DecidableEq ι]

def KeepsTo (contract : Contract sig) (config : Config sig State ι ρ) : Prop :=
  ∀ index program, config.task index = some program → program.Uses contract

structure Accord (world : World sig State ι ρ)
    (permits : Config sig State ι ρ → Event sig ι → Prop) (contract : Contract sig)
    (fact : State → Prop) : Prop where
  serve : ∀ state op reply after, fact state → contract.allowed op →
    world.serve state op reply after → contract.expected op reply ∧ fact after
  start : ∀ config index program after, fact config.state → permits config (.start index) →
    world.start config.state index program after → program.Uses contract ∧ fact after
  stop : ∀ state index program after, fact state → world.stop state index program after →
    fact after
  lapse : ∀ state after, fact state → world.lapse state after → fact after

variable {world : World sig State ι ρ} {permits : Config sig State ι ρ → Event sig ι → Prop}
  {contract : Contract sig} {fact : State → Prop}

theorem Accord.step (accord : Accord world permits contract fact)
    {before after : Config sig State ι ρ} {event : Event sig ι} (keeps : KeepsTo contract before)
    (holds : fact before.state) (permitted : permits before event)
    (step : Step world before event after) :
    KeepsTo contract after ∧ fact after.state ∧ ∀ index op reply,
      event = .issue index op reply → contract.allowed op ∧ contract.expected op reply := by
  have others {index : ι} {program : Option (Prog sig ρ)}
      (uses : ∀ running, program = some running → running.Uses contract) :
      ∀ other running, Function.update before.task index program other = some running →
        running.Uses contract := by
    intro other running found
    by_cases same : other = index
    · subst same
      rw [Function.update_self] at found
      exact uses running found
    · rw [Function.update_of_ne same] at found
      exact keeps other running found
  cases step with
  | @issue index op resume reply after found served =>
      have uses := keeps index _ found
      obtain ⟨expected, kept⟩ := accord.serve _ op reply after holds uses.1 served
      refine ⟨others ?_, kept, ?_⟩
      · rintro running ⟨⟩
        exact uses.2 reply expected
      · rintro _ _ _ ⟨⟩
        exact ⟨uses.1, expected⟩
  | @start index program after free started =>
      obtain ⟨uses, kept⟩ := accord.start before index program after holds permitted started
      refine ⟨others ?_, kept, ?_⟩
      · rintro running ⟨⟩
        exact uses
      · rintro _ _ _ ⟨⟩
  | @stop index program after found stopped =>
      refine ⟨others ?_, accord.stop _ index program after holds stopped, ?_⟩
      · rintro running ⟨⟩
      · rintro _ _ _ ⟨⟩
  | @lapse after lapsed =>
      refine ⟨keeps, accord.lapse _ after holds lapsed, ?_⟩
      rintro _ _ _ ⟨⟩

theorem Accord.runs (accord : Accord world permits contract fact)
    {first last : Config sig State ι ρ} {events : List (Event sig ι)}
    (keeps : KeepsTo contract first) (holds : fact first.state)
    (runs : Runs world permits first events last) :
    KeepsTo contract last ∧ fact last.state ∧ ∀ index op reply,
      .issue index op reply ∈ events → contract.allowed op ∧ contract.expected op reply := by
  induction runs with
  | refl => exact ⟨keeps, holds, by simp⟩
  | step _ permitted step ih =>
      obtain ⟨keeping, holding, exchanged⟩ := ih
      obtain ⟨kept, held, current⟩ := accord.step keeping holding permitted step
      refine ⟨kept, held, fun index op reply listed => ?_⟩
      rcases List.mem_append.mp listed with earlier | latest
      · exact exchanged index op reply earlier
      · exact current index op reply (List.mem_singleton.mp latest).symm

theorem KeepsTo.of_idle {allowed : sig.Op → Prop} {exempt : ι → Prop}
    (starts : ∀ state index program after, world.start state index program after →
      ¬ exempt index → program.Uses (.only allowed))
    {first last : Config sig State ι ρ} {events : List (Event sig ι)}
    (free : ∀ index, first.task index = none) (runs : Runs world permits first events last)
    (idle : ∀ index, exempt index → last.task index = none) : KeepsTo (.only allowed) last := by
  have each : ∀ index program, ¬ exempt index → last.task index = some program →
      program.Uses (.only allowed) := by
    refine runs.invariant (fun _ config => ∀ index program, ¬ exempt index →
      config.task index = some program → program.Uses (.only allowed)) ?_ ?_
    · intro index program _ found
      rw [free index] at found
      cases found
    rintro past before event after keeps - step other running held found
    cases step with
    | @issue index op resume reply state current served =>
        by_cases same : other = index
        · subst same
          simp only [Function.update_self, Option.some.injEq] at found
          subst found
          exact (keeps other _ held current).2 reply trivial
        · simp only [Function.update_of_ne same] at found
          exact keeps other running held found
    | @start index program state vacant started =>
        by_cases same : other = index
        · subst same
          simp only [Function.update_self, Option.some.injEq] at found
          subst found
          exact starts _ other program state started held
        · simp only [Function.update_of_ne same] at found
          exact keeps other running held found
    | @stop index program state current stopped =>
        by_cases same : other = index
        · subst same
          simp [Function.update_self] at found
        · simp only [Function.update_of_ne same] at found
          exact keeps other running held found
    | @lapse state lapsed => exact keeps other running held found
  intro index program running
  refine each index program (fun exempted => ?_) running
  rw [idle index exempted] at running
  cases running

end Async
