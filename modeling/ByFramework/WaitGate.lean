import ByFramework.Redis.Store
import ByFramework.WaitGateCore

/-!
Any number of gate calls on copies of one reply, interleaved command by command, and when at
most one of them lets its copy through.
-/

namespace ByFramework

open Async

/-- Two commands that resolve the same wait: they agree on every field the gate reads. -/
structure SameReply (left right : MessageHeader) : Prop where
  session : left.sessionId = right.sessionId
  caller : left.messageId = right.messageId
  child : left.parentMessageId = right.parentMessageId
  group : left.taskGroupId = right.taskGroupId

theorem SameReply.candidates {left right : MessageHeader} (same : SameReply left right) :
    candidateMembers left = candidateMembers right := by
  simp [candidateMembers, memberFromResume, askUserMember, same.session, same.caller,
    same.child, same.group]

abbrev GateOutcome := Except JsError WaitGateDecision × Unit

def gateWorld (ι : Type) : World effects RedisStore ι GateOutcome := World.closed redisServe

def gateCalls {ι : Type} (store : RedisStore) (headers : ι → MessageHeader) :
    Config effects RedisStore ι GateOutcome :=
  ⟨store, fun index => some (Task.start (consumeWaitEntry (headers index)) ())⟩

def letsThrough {ι : Type} (config : Config effects RedisStore ι GateOutcome) (index : ι) : Bool :=
  match config.result index with
  | some (.ok decision, _) => decision.allow
  | _ => false

def indexed (sessionId : String) (store : RedisStore) (member : String) : Prop :=
  (store.score (waitIndexKey sessionId) member).isSome = true

def marked (sessionId : String) (store : RedisStore) (member : String) : Prop :=
  store.holds (consumedMarkerKey sessionId member) = true

instance (sessionId : String) (store : RedisStore) (member : String) :
    Decidable (indexed sessionId store member) :=
  inferInstanceAs (Decidable (_ = true))

instance (sessionId : String) (store : RedisStore) (member : String) :
    Decidable (marked sessionId store member) :=
  inferInstanceAs (Decidable (_ = true))

/-- The state a registration leaves: the wait is in the index and no marker is. -/
structure Registered (store : RedisStore) (params : RegisterWaitParams) : Prop where
  indexed : indexed params.sessionId store params.member
  unmarked : ¬ marked params.sessionId store params.member

inductive GateStage where
  | trying (candidates : List String)
  | marking (member : String)
  | checking (member : String) (rest : List String)
  | decided (decision : WaitGateDecision)

namespace GateStage

def afterClaim (member : String) (rest : List String) : Except String Nat → GateStage
  | .ok removed => if removed > 0 then .marking member else .checking member rest
  | .error _ => .decided ⟨true, allowGateError, ""⟩

def afterCheck (member : String) (rest : List String) : Except String Bool → GateStage
  | .ok consumed =>
      if consumed then .decided ⟨false, denyAlreadyConsumed, member⟩ else .trying rest
  | .error _ => .decided ⟨true, allowGateError, ""⟩

def claimCommand (sessionId member : String) : Op :=
  .redis (.zrem (waitIndexKey sessionId) member)

def markCommand (sessionId member : String) : Op :=
  .redis (.set (consumedMarkerKey sessionId member) (.text "1") false
    (some waitConsumedTtlSeconds))

def checkCommand (sessionId member : String) : Op :=
  .redis (.existsKey (consumedMarkerKey sessionId member))

def point (sessionId : String) : GateStage → Point effects GateStage GateOutcome
  | .trying [] => .finished (.ok ⟨true, allowUnregistered, ""⟩, ())
  | .trying (member :: rest) => .awaiting (claimCommand sessionId member)
      (afterClaim member rest)
  | .marking member => .awaiting (markCommand sessionId member)
      fun _ => .decided ⟨true, allowClaimed, member⟩
  | .checking member rest => .awaiting (checkCommand sessionId member)
      (afterCheck member rest)
  | .decided decision => .finished (.ok decision, ())

/-- The rest of a gate call at a stage, under the `catch` that fails open. -/
def failingOpen (task : Proc Unit WaitGateDecision) : Prog effects GateOutcome :=
  Task.start (tryCatch task fun _ => pure ⟨true, allowGateError, ""⟩) ()

def program (sessionId : String) : GateStage → Prog effects GateOutcome
  | .trying candidates => failingOpen (tryCandidates sessionId candidates)
  | .marking member => failingOpen do
      markConsumed sessionId member
      pure ⟨true, allowClaimed, member⟩
  | .checking member rest => failingOpen do
      let consumed : Bool ← redis (.existsKey (consumedMarkerKey sessionId member))
      if consumed then pure ⟨false, denyAlreadyConsumed, member⟩
      else tryCandidates sessionId rest
  | .decided decision => .done (.ok decision, ())

end GateStage

namespace GateStage

theorem failingOpen_redis_bind (command : RedisCommand)
    (next : command.Reply → Proc Unit WaitGateDecision) :
    failingOpen (redis command >>= next) =
      .call (.redis command) fun reply => match reply with
        | .ok value => failingOpen (next value)
        | .error _ => .done (.ok ⟨true, allowGateError, ""⟩, ()) := by
  simp only [failingOpen, Task.start_tryCatch, start_redis_bind, Prog.call_bind]
  congr 1
  funext reply
  cases reply with
  | ok value => rfl
  | error message => rfl

theorem program_eq (sessionId : String) (stage : GateStage) :
    program sessionId stage = match point sessionId stage with
      | .finished value => .done value
      | .awaiting op next => .call op fun reply => program sessionId (next reply) := by
  cases stage with
  | trying candidates =>
      cases candidates with
      | nil => rfl
      | cons member rest =>
          refine (failingOpen_redis_bind (.zrem (waitIndexKey sessionId) member) _).trans ?_
          simp only [point, claimCommand]
          congr 1
          funext reply
          cases reply with
          | error message => rfl
          | ok removed =>
              simp only [afterClaim]
              split
              · rfl
              · rfl
  | marking member =>
      change @Prog.call effects _ (markCommand sessionId member) _ = _
      simp only [point]
      congr 1
      funext reply
      cases reply with
      | error message => rfl
      | ok stored => rfl
  | checking member rest =>
      refine (failingOpen_redis_bind (.existsKey (consumedMarkerKey sessionId member)) _).trans ?_
      simp only [point, checkCommand]
      congr 1
      funext reply
      cases reply with
      | error message => rfl
      | ok consumed =>
          simp only [afterCheck]
          split
          · rfl
          · rfl
  | decided decision => rfl

def staging (sessionId : String) : Staging effects GateStage GateOutcome where
  program := program sessionId
  point := point sessionId
  program_eq stage := by
    rw [program_eq sessionId stage]
    cases point sessionId stage with
    | finished value => rfl
    | awaiting op next => rfl

end GateStage

/-! ### What every interleaving keeps -/

section Invariant

variable {ι : Type} [DecidableEq ι] {sessionId member : String} {after : List String}
  {store : RedisStore}

/-- Everything the call has yet to try before `member` is out of the index. -/
def Ahead (sessionId member : String) (after : List String) (store : RedisStore)
    (candidates : List String) : Prop :=
  ∃ passed, candidates = passed ++ member :: after ∧
    ∀ other ∈ passed, ¬ indexed sessionId store other

/-- No call gets past `member`. -/
def Placed (sessionId member : String) (after : List String) (store : RedisStore) :
    GateStage → Prop
  | .trying candidates => Ahead sessionId member after store candidates
  | .checking other rest =>
      (other = member ∧ ¬ indexed sessionId store member) ∨ Ahead sessionId member after store rest
  | .marking other => other = member
  | .decided _ => True

def Wins : GateStage → Prop
  | .marking _ => True
  | .decided decision => decision.allow = true
  | _ => False

structure GateInv (sessionId member : String) (after : List String) (store : RedisStore)
    (stages : ι → GateStage) : Prop where
  placed : ∀ index, Placed sessionId member after store (stages index)
  unclaimed : indexed sessionId store member → ∀ index, ¬ Wins (stages index)
  guarded : ¬ indexed sessionId store member →
    marked sessionId store member ∨ ∃ index, stages index = .marking member
  single : ∀ left right, Wins (stages left) → Wins (stages right) → left = right

def awaitedMark {ρ : Type} : Option (Prog effects ρ) → Option Key
  | some (.call (.redis (.set key _ _ _)) _) => some key
  | _ => none

/-- No marker is looked up while the call that claimed its wait has yet to write it. -/
def MarkerSettled (config : Config effects RedisStore ι GateOutcome) :
    Event effects ι → Prop
  | .issue _ (.redis (.existsKey key)) _ => ∀ other, awaitedMark (config.task other) ≠ some key
  | _ => True

theorem Placed.mono {before later : RedisStore} {stage : GateStage}
    (fewer : ∀ other, indexed sessionId later other → indexed sessionId before other)
    (placed : Placed sessionId member after before stage) :
    Placed sessionId member after later stage := by
  have ahead : ∀ candidates, Ahead sessionId member after before candidates →
      Ahead sessionId member after later candidates := by
    rintro candidates ⟨passed, split, absent⟩
    exact ⟨passed, split, fun other inPassed present => absent other inPassed (fewer other present)⟩
  cases stage with
  | trying candidates => exact ahead candidates placed
  | marking other => exact placed
  | checking other rest =>
      rcases placed with ⟨same, absent⟩ | further
      · exact Or.inl ⟨same, fun present => absent (fewer member present)⟩
      · exact Or.inr (ahead rest further)
  | decided decision => trivial

theorem GateInv.keep {later : RedisStore} {stages : ι → GateStage} {index : ι} {next : GateStage}
    (inv : GateInv sessionId member after store stages)
    (fewer : ∀ other, indexed sessionId later other → indexed sessionId store other)
    (same : indexed sessionId store member → indexed sessionId later member)
    (marks : marked sessionId store member → marked sessionId later member)
    (losing : ¬ Wins (stages index)) (loses : ¬ Wins next)
    (placed : Placed sessionId member after later next) :
    GateInv sessionId member after later (Function.update stages index next) where
  placed other := by
    by_cases equal : other = index
    · subst equal
      simpa using placed
    · simpa [equal] using (inv.placed other).mono fewer
  unclaimed present other := by
    by_cases equal : other = index
    · subst equal
      simpa using loses
    · simpa [equal] using inv.unclaimed (fewer member present) other
  guarded absent := by
    rcases inv.guarded fun present => absent (same present) with already | ⟨other, marking⟩
    · exact Or.inl (marks already)
    · have differ : other ≠ index := by
        rintro rfl
        exact losing (by simp [marking, Wins])
      exact Or.inr ⟨other, by simpa [differ] using marking⟩
  single left right := by
    by_cases leftEqual : left = index
    · subst leftEqual
      simp [loses]
    · by_cases rightEqual : right = index
      · subst rightEqual
        simp [loses]
      · simpa [leftEqual, rightEqual] using inv.single left right

/-- The call whose `ZREM` removes the member is the first and only winner. -/
theorem GateInv.claim {later : RedisStore} {stages : ι → GateStage} {index : ι}
    (inv : GateInv sessionId member after store stages)
    (present : indexed sessionId store member)
    (fewer : ∀ other, indexed sessionId later other → indexed sessionId store other)
    (gone : ¬ indexed sessionId later member) :
    GateInv sessionId member after later (Function.update stages index (.marking member)) where
  placed other := by
    by_cases equal : other = index
    · subst equal
      simp [Placed]
    · simpa [equal] using (inv.placed other).mono fewer
  unclaimed still := absurd still gone
  guarded _ := Or.inr ⟨index, by simp⟩
  single left right leftWins rightWins := by
    have alone : ∀ other, Wins (Function.update stages index (.marking member) other) →
        other = index := by
      intro other wins
      by_contra differ
      exact inv.unclaimed present other (by simpa [differ] using wins)
    exact (alone left leftWins).trans (alone right rightWins).symm

theorem GateInv.mark {later : RedisStore} {stages : ι → GateStage} {index : ι}
    (inv : GateInv sessionId member after store stages)
    (marking : stages index = .marking member)
    (same : ∀ other, indexed sessionId later other ↔ indexed sessionId store other)
    (written : marked sessionId later member) (decision : WaitGateDecision) :
    GateInv sessionId member after later (Function.update stages index (.decided decision)) where
  placed other := by
    by_cases equal : other = index
    · subst equal
      simp [Placed]
    · simpa [equal] using (inv.placed other).mono fun member => (same member).mp
  unclaimed present := by
    exact absurd (by simp [marking, Wins]) (inv.unclaimed ((same member).mp present) index)
  guarded _ := Or.inl written
  single left right leftWins rightWins := by
    have before : ∀ other, Wins (Function.update stages index (.decided decision) other) →
        Wins (stages other) := by
      intro other wins
      by_cases equal : other = index
      · subst equal
        simp [marking, Wins]
      · simpa [equal] using wins
    exact inv.single left right (before left leftWins) (before right rightWins)

theorem not_wins_trying (candidates : List String) : ¬ Wins (.trying candidates) := id

theorem not_wins_checking (other : String) (rest : List String) : ¬ Wins (.checking other rest) :=
  id

theorem indexed_zrem (other query : String) :
    indexed sessionId (store.exec (.zrem (waitIndexKey sessionId) other)).2 query ↔
      query ≠ other ∧ indexed sessionId store query := by
  simp only [indexed, Redis.Store.score_zrem]
  by_cases same : query = other
  · simp [same]
  · simp [same]

theorem marked_zrem (other query : String) :
    marked sessionId (store.exec (.zrem (waitIndexKey sessionId) other)).2 query ↔
      marked sessionId store query := by
  simp only [marked]
  rw [Redis.Store.holds_zrem _ _ _ _ (by simp [consumedMarkerKey, waitIndexKey])]

theorem indexed_set_marker (other query : String) (value : Value) (ttl : Option Nat) :
    indexed sessionId (store.exec (.set (consumedMarkerKey sessionId other) value false ttl)).2
      query ↔ indexed sessionId store query := by
  simp only [indexed]
  rw [Redis.Store.score_set _ _ _ _ _ _ (by simp [consumedMarkerKey, waitIndexKey])]

theorem marked_set_marker (other : String) (value : Value) (ttl : Option Nat) :
    marked sessionId (store.exec (.set (consumedMarkerKey sessionId other) value false ttl)).2
      other := by
  simp [marked, Redis.Store.holds_set]

theorem GateInv.step_trying {stages : ι → GateStage} {index : ι} {other : String}
    {rest : List String} {reply : Except String Nat} {later : RedisStore}
    (inv : GateInv sessionId member after store stages)
    (stage : stages index = .trying (other :: rest))
    (served : store.exec (.zrem (waitIndexKey sessionId) other) = (reply, later)) :
    GateInv sessionId member after later
      (Function.update stages index (GateStage.afterClaim other rest reply)) := by
  obtain rfl : (store.exec (.zrem (waitIndexKey sessionId) other)).2 = later := by rw [served]
  have answered : reply = .ok (if indexed sessionId store other then 1 else 0) := by
    have := congrArg Prod.fst served
    simp only [Redis.Store.exec_zrem_reply] at this
    rw [← this]
    rfl
  have fewer : ∀ query, indexed sessionId
      (store.exec (.zrem (waitIndexKey sessionId) other)).2 query →
      indexed sessionId store query := fun query present => ((indexed_zrem other query).mp present).2
  have place := inv.placed index
  rw [stage] at place
  have losing : ¬ Wins (stages index) := by rw [stage]; exact not_wins_trying _
  obtain ⟨passed, split, absent⟩ := place
  cases passed with
  | nil =>
      simp only [List.nil_append, List.cons.injEq] at split
      obtain ⟨rfl, rfl⟩ := split
      by_cases present : indexed sessionId store other
      · have claimed : GateStage.afterClaim other rest reply = .marking other := by
          simp [answered, present, GateStage.afterClaim]
        rw [claimed]
        exact inv.claim present fewer fun still => ((indexed_zrem other other).mp still).1 rfl
      · have missed : GateStage.afterClaim other rest reply = .checking other rest := by
          simp [answered, present, GateStage.afterClaim]
        rw [missed]
        exact inv.keep fewer (fun here => absurd here present) (marked_zrem other other).mpr
          losing (not_wins_checking _ _) (Or.inl ⟨rfl, fun still => present (fewer other still)⟩)
  | cons first passed =>
      simp only [List.cons_append, List.cons.injEq] at split
      obtain ⟨rfl, rfl⟩ := split
      have gone : ¬ indexed sessionId store other := absent other (by simp)
      have missed : GateStage.afterClaim other (passed ++ member :: after) reply =
          .checking other (passed ++ member :: after) := by
        simp [answered, gone, GateStage.afterClaim]
      rw [missed]
      refine inv.keep fewer (fun here => ?_) (marked_zrem other member).mpr losing
        (not_wins_checking _ _) (Or.inr ⟨passed, rfl, fun query inPassed still => ?_⟩)
      · exact (indexed_zrem other member).mpr ⟨fun equal => gone (equal ▸ here), here⟩
      · exact absent query (by simp [inPassed]) (fewer query still)

theorem GateInv.step_marking {stages : ι → GateStage} {index : ι} {other : String}
    {reply : Except String Bool} {later : RedisStore} {value : Value} {ttl : Option Nat}
    (inv : GateInv sessionId member after store stages) (stage : stages index = .marking other)
    (served : store.exec (.set (consumedMarkerKey sessionId other) value false ttl) =
      (reply, later)) :
    GateInv sessionId member after later
      (Function.update stages index (.decided ⟨true, allowClaimed, other⟩)) := by
  have place := inv.placed index
  rw [stage] at place
  obtain rfl : other = member := place
  obtain rfl : (store.exec (.set (consumedMarkerKey sessionId other) value false ttl)).2 = later := by
    rw [served]
  exact inv.mark stage (fun query => indexed_set_marker other query value ttl)
    (marked_set_marker other value ttl) _

theorem GateInv.step_checking {stages : ι → GateStage} {index : ι} {other : String}
    {rest : List String} {reply : Except String Bool} {later : RedisStore}
    (inv : GateInv sessionId member after store stages)
    (stage : stages index = .checking other rest)
    (served : store.exec (.existsKey (consumedMarkerKey sessionId other)) = (reply, later))
    (settled : ∀ index, stages index ≠ .marking other) :
    GateInv sessionId member after later
      (Function.update stages index (GateStage.afterCheck other rest reply)) := by
  simp only [Redis.Store.exec, Prod.mk.injEq] at served
  obtain ⟨answered, rfl⟩ := served
  have place := inv.placed index
  rw [stage] at place
  have losing : ¬ Wins (stages index) := by rw [stage]; exact not_wins_checking _ _
  by_cases consumed : marked sessionId store other
  · have denied : GateStage.afterCheck other rest reply =
        .decided ⟨false, denyAlreadyConsumed, other⟩ := by
      rw [← answered]
      simp [GateStage.afterCheck, show store.holds _ = true from consumed]
    rw [denied]
    exact inv.keep (fun _ => id) id id losing (by simp [Wins]) trivial
  · have continues : GateStage.afterCheck other rest reply = .trying rest := by
      rw [← answered]
      simp [GateStage.afterCheck, show ¬ store.holds _ = true from consumed]
    rw [continues]
    refine inv.keep (fun _ => id) id id losing (not_wins_trying _) ?_
    rcases place with ⟨rfl, absent⟩ | further
    · -- the claimed member is either marked or about to be, so its look-up cannot miss
      rcases inv.guarded absent with already | ⟨holder, marking⟩
      · exact absurd already consumed
      · exact absurd marking (settled holder)
    · exact further

theorem GateInv.step {stages : ι → GateStage} {index : ι} {op : Op} {next : op.Reply → GateStage}
    {reply : op.Reply} {later : RedisStore} (inv : GateInv sessionId member after store stages)
    (awaiting : GateStage.point sessionId (stages index) = .awaiting op next)
    (served : redisServe store op reply later)
    (settled : ∀ other, op = GateStage.checkCommand sessionId other →
      ∀ index, stages index ≠ .marking other) :
    GateInv sessionId member after later (Function.update stages index (next reply)) := by
  cases stage : stages index with
  | trying candidates =>
      cases candidates with
      | nil => simp [stage, GateStage.point] at awaiting
      | cons other rest =>
          simp only [stage, GateStage.point] at awaiting
          cases awaiting
          exact inv.step_trying stage served
  | marking other =>
      simp only [stage, GateStage.point] at awaiting
      cases awaiting
      exact inv.step_marking stage served
  | checking other rest =>
      simp only [stage, GateStage.point] at awaiting
      cases awaiting
      exact inv.step_checking stage served (settled other rfl)
  | decided decision => simp [stage, GateStage.point] at awaiting

theorem first_indexed {candidates : List String} {wait : String}
    (awaited : wait ∈ candidates) (present : indexed sessionId store wait) :
    ∃ member after, Ahead sessionId member after store candidates ∧
      indexed sessionId store member := by
  induction candidates with
  | nil => simp at awaited
  | cons first rest ih =>
      by_cases here : indexed sessionId store first
      · exact ⟨first, rest, ⟨[], rfl, by simp⟩, here⟩
      · have further : wait ∈ rest := by
          rcases List.mem_cons.mp awaited with rfl | inRest
          · exact absurd present here
          · exact inRest
        obtain ⟨member, after, ⟨passed, rfl, absent⟩, found⟩ := ih further
        refine ⟨member, after, ⟨first :: passed, rfl, ?_⟩, found⟩
        intro other inPassed
        rcases List.mem_cons.mp inPassed with rfl | inRest
        · exact here
        · exact absent other inRest

omit [DecidableEq ι] in
theorem GateInv.initial {candidates : List String}
    (ahead : Ahead sessionId member after store candidates)
    (present : indexed sessionId store member) :
    GateInv sessionId member after store (fun _ : ι => .trying candidates) where
  placed _ := ahead
  unclaimed _ _ := not_wins_trying _
  guarded absent := absurd present absent
  single _ _ wins := absurd wins (not_wins_trying _)

omit [DecidableEq ι] in
theorem MarkerSettled.not_marking {config : Config effects RedisStore ι GateOutcome}
    {stages : ι → GateStage} {index : ι} {op : Op} {reply : op.Reply}
    (stands : StandsAt (fun _ => GateStage.staging sessionId) config stages)
    (settled : MarkerSettled config (.issue index op reply)) (other : String)
    (looksUp : op = GateStage.checkCommand sessionId other) (holder : ι) :
    stages holder ≠ .marking other := by
  subst looksUp
  intro marking
  have running := stands holder
  rw [marking, (GateStage.staging sessionId).program_eq] at running
  exact settled holder (by rw [running]; rfl)

end Invariant

theorem wins_of_letsThrough {ι : Type} {sessionId : String}
    {config : Config effects RedisStore ι GateOutcome} {stages : ι → GateStage} {index : ι}
    (stands : StandsAt (fun _ => GateStage.staging sessionId) config stages)
    (through : letsThrough config index = true)
    (tried : ∀ candidates, stages index = .trying candidates → candidates ≠ []) :
    Wins (stages index) := by
  unfold letsThrough at through
  split at through
  next decision memory returned =>
    have result := stands.result index
    rw [returned] at result
    cases stage : stages index with
    | trying candidates =>
        cases candidates with
        | nil => exact absurd rfl (tried [] stage)
        | cons other rest => simp [stage, GateStage.staging, GateStage.point] at result
    | marking other => simp [stage, GateStage.staging, GateStage.point] at result
    | checking other rest => simp [stage, GateStage.staging, GateStage.point] at result
    | decided chosen =>
        simp only [stage, GateStage.staging, GateStage.point, Option.some.injEq, Prod.mk.injEq,
          Except.ok.injEq] at result
        simpa [Wins, ← result.1] using through
  next => simp at through

theorem registerWait_registers (store : RedisStore) (params : RegisterWaitParams) :
    (registerWait params : Proc Unit PUnit).wp (Setting.alone redisServe)
      (fun _ _ later => Registered later params) () store := by
  unfold registerWait
  refine Task.wp_failSoft (Task.wp_bind (wp_dateNow ?_) trivial) trivial
  rintro _ rfl -
  refine ⟨trivial, ?_⟩
  rintro now _ rfl - _ rfl -
  refine Task.wp_bind (wp_redis_alone ?_) trivial
  refine Task.wp_failSoft (Task.wp_bind (wp_redis_alone ?_) trivial) trivial
  refine Task.wp_pure ?_
  rintro _ rfl - _ rfl - _ rfl -
  have apart : waitIndexKey params.sessionId ≠ consumedMarkerKey params.sessionId params.member := by
    simp [waitIndexKey, consumedMarkerKey]
  constructor
  · simp only [indexed]
    rw [Redis.Store.score_del _ _ _ _ apart, Redis.Store.score_zadd]
    simp
  · simp only [marked]
    rw [Redis.Store.holds_del]
    simp

/-- At most one call lets its copy through when no look-up falls into a winner's window. -/
theorem gate_single_winner {ι : Type} [DecidableEq ι] (store : RedisStore)
    (params : RegisterWaitParams) (header : MessageHeader) (headers : ι → MessageHeader)
    (last : Config effects RedisStore ι GateOutcome) (registered : Registered store params)
    (session : params.sessionId = header.sessionId)
    (awaited : params.member ∈ candidateMembers header)
    (copies : ∀ index, SameReply (headers index) header)
    (reaches : Reaches (gateWorld _) MarkerSettled (gateCalls store headers) last)
    (left right : ι) (leftThrough : letsThrough last left = true)
    (rightThrough : letsThrough last right = true) : left = right := by
  have present : indexed header.sessionId store params.member := session ▸ registered.indexed
  obtain ⟨member, after, ahead, found⟩ := first_indexed awaited present
  have stands : StandsAt (fun _ => GateStage.staging header.sessionId) (gateCalls store headers)
      (fun _ => .trying (candidateMembers header)) := by
    intro index
    simp only [gateCalls, GateStage.staging, GateStage.program, GateStage.failingOpen,
      consumeWaitEntry, (copies index).candidates, (copies index).session]
  obtain ⟨stages, standing, inv⟩ := stands.invariant
    (fun state stages => GateInv header.sessionId member after state stages)
    (GateInv.initial ahead found) reaches
    fun config stages index op next reply later standing inv settled awaiting served =>
      inv.step awaiting served (settled.not_marking standing)
  have tried : ∀ index candidates, stages index = .trying candidates → candidates ≠ [] := by
    rintro index candidates stage rfl
    have place := inv.placed index
    rw [stage] at place
    obtain ⟨passed, split, _⟩ := place
    simp at split
  exact inv.single left right (wins_of_letsThrough standing leftThrough (tried left))
    (wins_of_letsThrough standing rightThrough (tried right))

/-! ### Two copies of one reply -/

def racingHeader : MessageHeader :=
  { messageId := "msg-caller"
    sessionId := "session"
    traceId := "trace"
    sourceAgentType := "callee"
    targetAgentType := "caller"
    parentMessageId := "msg-child" }

def racingParams : RegisterWaitParams :=
  { sessionId := "session"
    parentMessageId := "msg-caller"
    childMessageId := "msg-child"
    timeoutMs := 1000 }

/-- The wait is registered at time zero. -/
def racingStore : RedisStore :=
  (Redis.Store.empty.exec (.zadd (waitIndexKey "session") racingParams.member 1000)).2

def racingCalls : Config effects RedisStore (Fin 2) GateOutcome :=
  gateCalls racingStore fun _ => racingHeader

theorem racingStore_registered : Registered racingStore racingParams := by
  constructor
  · decide +kernel
  · decide +kernel

/-- The second call looks the marker up between the first one's `ZREM` and its `SET`. -/
def racingRun : Config effects RedisStore (Fin 2) GateOutcome :=
  runSchedule redisAnswer racingCalls
    [formerTask, latterTask, latterTask, latterTask, latterTask, formerTask]

theorem racingRun_reaches :
    Reaches (gateWorld _) (fun _ _ => True) racingCalls racingRun := by
  have permitted : scheduleOk redisAnswer (fun _ _ => true) racingCalls [0, 1, 1, 1, 1, 0] = true := by
    decide +kernel
  have run := runSchedule_reaches (gateWorld (Fin 2)) redisAnswer redisAnswer_serves
    (fun _ _ => true) racingCalls [0, 1, 1, 1, 1, 0] permitted
  exact run.mono fun _ _ _ => trivial

theorem gate_two_winners :
    Registered racingStore racingParams ∧
      racingParams.member ∈ candidateMembers racingHeader ∧
      Reaches (gateWorld _) (fun _ _ => True) racingCalls racingRun ∧
      letsThrough racingRun 0 = true ∧ letsThrough racingRun 1 = true :=
  ⟨racingStore_registered, by decide +kernel, racingRun_reaches, by decide +kernel,
    by decide +kernel⟩

def settledCheck (config : Config effects RedisStore (Fin 2) GateOutcome) :
    Event effects (Fin 2) → Bool
  | .issue _ (.redis (.existsKey key)) _ =>
      decide (∀ other, awaitedMark (config.task other) ≠ some key)
  | _ => true

theorem settledCheck_sound (config : Config effects RedisStore (Fin 2) GateOutcome)
    (event : Event effects (Fin 2)) (checked : settledCheck config event = true) :
    MarkerSettled config event := by
  unfold settledCheck at checked
  split at checked
  · simpa [MarkerSettled] using checked
  · rename_i other
    cases event with
    | issue index op reply =>
        cases op with
        | redis command =>
            cases command with
            | existsKey key => exact absurd rfl (other _ _ _)
            | _ => trivial
        | _ => trivial
    | _ => trivial

/-- The first call writes its marker before the second looks it up. -/
def settledRun : Config effects RedisStore (Fin 2) GateOutcome :=
  runSchedule redisAnswer racingCalls [formerTask, formerTask, latterTask, latterTask]

theorem settledRun_reaches :
    Reaches (gateWorld _) MarkerSettled racingCalls settledRun := by
  have permitted : scheduleOk redisAnswer settledCheck racingCalls [0, 0, 1, 1] = true := by
    decide +kernel
  have run := runSchedule_reaches (gateWorld (Fin 2)) redisAnswer redisAnswer_serves
    settledCheck racingCalls [0, 0, 1, 1] permitted
  exact run.mono settledCheck_sound

theorem gate_single_winner_settled :
    letsThrough settledRun 0 = true ∧ letsThrough settledRun 1 = false := by
  have first : letsThrough settledRun 0 = true := by decide +kernel
  refine ⟨first, Bool.eq_false_iff.mpr fun second => ?_⟩
  have same : (0 : Fin 2) = 1 := gate_single_winner racingStore racingParams racingHeader
    (fun _ => racingHeader) settledRun racingStore_registered rfl (by decide +kernel)
    (fun _ => ⟨rfl, rfl, rfl, rfl⟩) settledRun_reaches 0 1 first second
  exact absurd same (by decide)

end ByFramework
