import ByFramework.HeartbeatCore

/-! The health of a runner over any sequence of evaluations: its degraded episodes, told without
the counters that the runner keeps. -/

namespace ByFramework

/-- One evaluation: what the runner had measured by then, and the clock. -/
structure HealthCall where
  now : Int
  signals : HealthSignals

namespace HealthCall

/-- The verdict of `isHealthy`. -/
def healthy (call : HealthCall) : Bool := call.signals.isHealthy call.now

end HealthCall

structure HealthMemory where
  healthState : String := "normal"
  record : HealthRecord := {}
deriving DecidableEq, Repr

namespace HealthMemory

def evaluate (memory : HealthMemory) (call : HealthCall) : HealthVerdict :=
  evaluateHealth call.now call.signals memory.healthState memory.record

def after (memory : HealthMemory) (call : HealthCall) : HealthMemory :=
  ⟨(memory.evaluate call).healthState, (memory.evaluate call).record⟩

end HealthMemory

/-- The memory of a runner that has gone through `calls`. -/
def healthAfter (calls : List HealthCall) : HealthMemory :=
  calls.foldl HealthMemory.after {}

def Unrecovered (since : List HealthCall) : Prop :=
  ∀ earlier first second third later, since = earlier ++ first :: second :: third :: later →
    ¬(first.healthy = true ∧ second.healthy = true ∧ third.healthy = true)

/-- An episode that `opening` began and that goes on after the evaluations `since`. -/
structure EpisodeGoesOn (opening : HealthCall) (since : List HealthCall) : Prop where
  begun : opening.healthy = false
  unrecovered : Unrecovered since
  recent : ∀ call ∈ since, call.healthy = false → call.now - opening.now < degradedMaxMs

/-- Nothing but healthy verdicts and episodes that ended: each at the third healthy verdict in a
row. -/
inductive InGoodHealth : List HealthCall → Prop where
  | start : InGoodHealth []
  | healthy {calls : List HealthCall} {call : HealthCall} (before : InGoodHealth calls)
      (verdict : call.healthy = true) : InGoodHealth (calls ++ [call])
  | recovered {calls since : List HealthCall} {opening third : HealthCall}
      (before : InGoodHealth calls) (episode : EpisodeGoesOn opening since)
      (ends : ¬Unrecovered (since ++ [third])) :
      InGoodHealth (calls ++ opening :: since ++ [third])

def InEpisode (calls : List HealthCall) : Prop :=
  ∃ before opening since, calls = before ++ opening :: since ∧ InGoodHealth before ∧
    EpisodeGoesOn opening since

/-- An unhealthy verdict came when the episode it fell into was old enough. -/
def GivenUp (calls : List HealthCall) : Prop :=
  ∃ before opening since late rest, calls = before ++ opening :: since ++ late :: rest ∧
    InGoodHealth before ∧ EpisodeGoesOn opening since ∧
    late.healthy = false ∧ degradedMaxMs ≤ late.now - opening.now

namespace HealthMemory

theorem after_normal_healthy {record : HealthRecord} {call : HealthCall}
    (verdict : call.healthy = true) : after ⟨"normal", record⟩ call = ⟨"normal", record⟩ := by
  have sound : call.signals.isHealthy call.now = true := verdict
  simp [after, evaluate, evaluateHealth, sound]

theorem after_normal_unhealthy {record : HealthRecord} {call : HealthCall}
    (verdict : call.healthy = false) :
    after ⟨"normal", record⟩ call = ⟨"degraded", ⟨call.now, 0⟩⟩ := by
  have failing : call.signals.isHealthy call.now = false := verdict
  simp [after, evaluate, evaluateHealth, failing]

theorem after_degraded_healthy {since : Int} {streak : Nat} {call : HealthCall}
    (verdict : call.healthy = true) :
    after ⟨"degraded", ⟨since, streak⟩⟩ call =
      if streak + 1 < degradedRecoveryChecks then ⟨"degraded", ⟨since, streak + 1⟩⟩
      else ⟨"normal", ⟨0, 0⟩⟩ := by
  have sound : call.signals.isHealthy call.now = true := verdict
  by_cases short : streak + 1 < degradedRecoveryChecks
  · have fewer : ¬degradedRecoveryChecks ≤ streak + 1 := by omega
    simp [after, evaluate, evaluateHealth, sound, short, fewer]
  · have enough : degradedRecoveryChecks ≤ streak + 1 := by omega
    simp [after, evaluate, evaluateHealth, sound, short, enough]

theorem after_degraded_unhealthy {since : Int} {streak : Nat} {call : HealthCall}
    (verdict : call.healthy = false) :
    after ⟨"degraded", ⟨since, streak⟩⟩ call =
      ⟨if call.now - since < degradedMaxMs then "degraded" else "fatal", ⟨since, 0⟩⟩ := by
  have failing : call.signals.isHealthy call.now = false := verdict
  by_cases young : call.now - since < degradedMaxMs
  · have recent : ¬degradedMaxMs ≤ call.now - since := by omega
    simp [after, evaluate, evaluateHealth, failing, young, recent]
  · have late : degradedMaxMs ≤ call.now - since := by omega
    simp [after, evaluate, evaluateHealth, failing, young, late]

theorem after_fatal {record : HealthRecord} (call : HealthCall) :
    after ⟨"fatal", record⟩ call = ⟨"fatal", record⟩ := by
  simp [after, evaluate, evaluateHealth]

theorem foldl_fatal {memory : HealthMemory} (fatal : memory.healthState = "fatal")
    (calls : List HealthCall) : (calls.foldl after memory).healthState = "fatal" := by
  induction calls generalizing memory with
  | nil => exact fatal
  | cons call rest ih =>
      apply ih
      obtain ⟨state, record⟩ := memory
      subst fatal
      rw [after_fatal]

end HealthMemory

theorem healthAfter_snoc (calls : List HealthCall) (call : HealthCall) :
    healthAfter (calls ++ [call]) = (healthAfter calls).after call := by
  simp [healthAfter]

def healthyTail (since : List HealthCall) : Nat :=
  since.foldl (fun streak call => if call.healthy then streak + 1 else 0) 0

theorem healthyTail_snoc (since : List HealthCall) (call : HealthCall) :
    healthyTail (since ++ [call]) = if call.healthy then healthyTail since + 1 else 0 := by
  simp [healthyTail]

theorem healthyTail_pos {since : List HealthCall} (some : 0 < healthyTail since) :
    ∃ earlier last, since = earlier ++ [last] ∧ last.healthy = true ∧
      healthyTail since = healthyTail earlier + 1 := by
  rcases List.eq_nil_or_concat since with rfl | ⟨earlier, last, rfl⟩
  · simp [healthyTail] at some
  · rw [List.concat_eq_append] at some ⊢
    rw [healthyTail_snoc] at some
    refine ⟨earlier, last, rfl, ?_, ?_⟩
    · by_contra unhealthy
      simp [unhealthy] at some
    · rw [healthyTail_snoc]
      split
      · rfl
      · rename_i unhealthy
        simp [unhealthy] at some

theorem unrecovered_snoc {since : List HealthCall} {call : HealthCall} :
    Unrecovered (since ++ [call]) ↔
      Unrecovered since ∧ (call.healthy = true → healthyTail since < 2) := by
  constructor
  · intro unrecovered
    constructor
    · rintro earlier first second third later rfl
      exact unrecovered earlier first second third (later ++ [call]) (by simp)
    · intro verdict
      by_contra long
      obtain ⟨earlier, second, rfl, secondHealthy, fewer⟩ :=
        @healthyTail_pos since (by omega)
      obtain ⟨earliest, first, rfl, firstHealthy, _⟩ :=
        @healthyTail_pos earlier (by omega)
      exact unrecovered earliest first second call [] (by simp)
        ⟨firstHealthy, secondHealthy, verdict⟩
  · rintro ⟨unrecovered, short⟩ earlier first second third later same
    rintro ⟨firstHealthy, secondHealthy, thirdHealthy⟩
    rcases List.eq_nil_or_concat later with rfl | ⟨middle, last, rfl⟩
    · have split : since ++ [call] = (earlier ++ [first, second]) ++ [third] := by
        simpa using same
      obtain ⟨rfl, lastSame⟩ := List.append_inj' split rfl
      obtain rfl : call = third := by simpa using lastSame
      have long : healthyTail (earlier ++ [first, second]) = healthyTail earlier + 2 := by
        have one := healthyTail_snoc earlier first
        have two := healthyTail_snoc (earlier ++ [first]) second
        rw [if_pos firstHealthy] at one
        rw [if_pos secondHealthy, one] at two
        simpa using two
      have bound := short thirdHealthy
      omega
    · rw [List.concat_eq_append] at same
      have split : since ++ [call] =
          (earlier ++ first :: second :: third :: middle) ++ [last] := by
        simpa using same
      obtain ⟨rfl, _⟩ := List.append_inj' split rfl
      exact unrecovered earlier first second third middle rfl
        ⟨firstHealthy, secondHealthy, thirdHealthy⟩

theorem unrecovered_nil : Unrecovered [] := by
  intro earlier first second third later same
  simp at same

theorem EpisodeGoesOn.snoc {opening call : HealthCall} {since : List HealthCall} :
    EpisodeGoesOn opening (since ++ [call]) ↔ EpisodeGoesOn opening since ∧
      (call.healthy = true → healthyTail since < 2) ∧
      (call.healthy = false → call.now - opening.now < degradedMaxMs) := by
  constructor
  · rintro ⟨begun, unrecovered, recent⟩
    rw [unrecovered_snoc] at unrecovered
    refine ⟨⟨begun, unrecovered.1, ?_⟩, unrecovered.2, ?_⟩
    · intro other listed
      exact recent other (List.mem_append_left _ listed)
    · exact recent call (by simp)
  · rintro ⟨⟨begun, unrecovered, recent⟩, short, young⟩
    refine ⟨begun, unrecovered_snoc.mpr ⟨unrecovered, short⟩, ?_⟩
    intro other listed
    rcases List.mem_append.mp listed with earlier | last
    · exact recent other earlier
    · obtain rfl : other = call := by simpa using last
      exact young

/-! ### The memory told by the episodes -/

theorem healthAfter_episode {before since : List HealthCall} {opening : HealthCall}
    (sound : healthAfter before = ⟨"normal", ⟨0, 0⟩⟩) (episode : EpisodeGoesOn opening since) :
    healthAfter (before ++ opening :: since) =
      ⟨"degraded", ⟨opening.now, healthyTail since⟩⟩ := by
  induction since using List.reverseRecOn with
  | nil =>
      rw [healthAfter_snoc, sound, HealthMemory.after_normal_unhealthy episode.begun]
      rfl
  | append_singleton since call ih =>
      obtain ⟨earlier, short, young⟩ := EpisodeGoesOn.snoc.mp episode
      have split : before ++ opening :: (since ++ [call]) =
          (before ++ opening :: since) ++ [call] := by simp
      rw [split, healthAfter_snoc, ih earlier, healthyTail_snoc]
      by_cases verdict : call.healthy = true
      · have more := short verdict
        rw [HealthMemory.after_degraded_healthy verdict, if_pos verdict, if_pos]
        unfold degradedRecoveryChecks
        omega
      · rw [Bool.not_eq_true] at verdict
        rw [HealthMemory.after_degraded_unhealthy verdict, if_pos (young verdict)]
        simp [verdict]

theorem healthAfter_inGoodHealth {calls : List HealthCall} (sound : InGoodHealth calls) :
    healthAfter calls = ⟨"normal", ⟨0, 0⟩⟩ := by
  induction sound with
  | start => rfl
  | healthy before verdict ih =>
      rw [healthAfter_snoc, ih, HealthMemory.after_normal_healthy verdict]
  | @recovered calls since opening third before episode ends ih =>
      rw [healthAfter_snoc, healthAfter_episode ih episode]
      rw [unrecovered_snoc] at ends
      have verdict : third.healthy = true := by
        by_contra unhealthy
        exact ends ⟨episode.unrecovered, fun healthy => absurd healthy unhealthy⟩
      have long : ¬healthyTail since < 2 := by
        intro short
        exact ends ⟨episode.unrecovered, fun _ => short⟩
      rw [HealthMemory.after_degraded_healthy verdict, if_neg]
      unfold degradedRecoveryChecks
      omega

theorem healthAfter_givenUp {calls : List HealthCall} (given : GivenUp calls) :
    (healthAfter calls).healthState = "fatal" := by
  obtain ⟨before, opening, since, late, rest, rfl, sound, episode, verdict, old⟩ := given
  have split : before ++ opening :: since ++ late :: rest =
      ((before ++ opening :: since) ++ [late]) ++ rest := by simp
  have fatal : (healthAfter ((before ++ opening :: since) ++ [late])).healthState = "fatal" := by
    rw [healthAfter_snoc, healthAfter_episode (healthAfter_inGoodHealth sound) episode,
      HealthMemory.after_degraded_unhealthy verdict, if_neg (by omega)]
  rw [split]
  unfold healthAfter
  rw [List.foldl_append]
  exact HealthMemory.foldl_fatal fatal rest

theorem GivenUp.append {calls : List HealthCall} (given : GivenUp calls)
    (more : List HealthCall) : GivenUp (calls ++ more) := by
  obtain ⟨before, opening, since, late, rest, rfl, sound, episode, verdict, old⟩ := given
  exact ⟨before, opening, since, late, rest ++ more, by simp, sound, episode, verdict, old⟩

theorem health_condition (calls : List HealthCall) :
    InGoodHealth calls ∨ InEpisode calls ∨ GivenUp calls := by
  induction calls using List.reverseRecOn with
  | nil => exact .inl .start
  | append_singleton calls call ih =>
      rcases ih with sound | ⟨before, opening, since, rfl, sound, episode⟩ | given
      · by_cases verdict : call.healthy = true
        · exact .inl (.healthy sound verdict)
        · rw [Bool.not_eq_true] at verdict
          refine .inr (.inl ⟨calls, call, [], rfl, sound, verdict, unrecovered_nil, ?_⟩)
          intro other listed
          cases listed
      · by_cases goesOn : EpisodeGoesOn opening (since ++ [call])
        · exact .inr (.inl ⟨before, opening, since ++ [call], by simp, sound, goesOn⟩)
        · rw [EpisodeGoesOn.snoc] at goesOn
          by_cases verdict : call.healthy = true
          · have third : ¬Unrecovered (since ++ [call]) := by
              rw [unrecovered_snoc]
              rintro ⟨_, short⟩
              exact goesOn ⟨episode, short, fun unhealthy => by simp [verdict] at unhealthy⟩
            exact .inl (.recovered sound episode third)
          · rw [Bool.not_eq_true] at verdict
            have old : ¬call.now - opening.now < degradedMaxMs := by
              intro young
              exact goesOn ⟨episode, fun healthy => by simp [verdict] at healthy, fun _ => young⟩
            exact .inr (.inr ⟨before, opening, since, call, [], rfl, sound, episode, verdict,
              by omega⟩)
      · exact .inr (.inr (given.append [call]))

/-- The runner's health is told by the verdicts alone: it is degraded from the first unhealthy one
to the third healthy one in a row, fatal from the first unhealthy one that comes too long after
the episode began, and only then does the evaluation answer that the heartbeat must stop. -/
theorem health_follows_episodes (calls : List HealthCall) :
    ((healthAfter calls).healthState = "normal" ↔ InGoodHealth calls) ∧
    ((healthAfter calls).healthState = "degraded" ↔ InEpisode calls) ∧
    ((healthAfter calls).healthState = "fatal" ↔ GivenUp calls) ∧
    (∀ more, (healthAfter calls).healthState = "fatal" →
      (healthAfter (calls ++ more)).healthState = "fatal") ∧
    ∀ call, ((healthAfter calls).evaluate call).keepsRenewing = false ↔
      (healthAfter (calls ++ [call])).healthState = "fatal" := by
  have normal : InGoodHealth calls → (healthAfter calls).healthState = "normal" := by
    intro sound
    rw [healthAfter_inGoodHealth sound]
  have degraded : InEpisode calls → (healthAfter calls).healthState = "degraded" := by
    rintro ⟨before, opening, since, rfl, sound, episode⟩
    rw [healthAfter_episode (healthAfter_inGoodHealth sound) episode]
  have fatal : GivenUp calls → (healthAfter calls).healthState = "fatal" := healthAfter_givenUp
  refine ⟨⟨?_, normal⟩, ⟨?_, degraded⟩, ⟨?_, fatal⟩, ?_, ?_⟩
  · intro state
    rcases health_condition calls with sound | episode | given
    · exact sound
    · simp [degraded episode] at state
    · simp [fatal given] at state
  · intro state
    rcases health_condition calls with sound | episode | given
    · simp [normal sound] at state
    · exact episode
    · simp [fatal given] at state
  · intro state
    rcases health_condition calls with sound | episode | given
    · simp [normal sound] at state
    · simp [degraded episode] at state
    · exact given
  · intro more state
    unfold healthAfter
    rw [List.foldl_append]
    exact HealthMemory.foldl_fatal state more
  · intro call
    rw [healthAfter_snoc]
    exact evaluateHealth_fatal_iff.symm

end ByFramework
