import ByFramework.CustodyIssues

/-!
Where a lease is found lapsed only once its process is gone, and no claim takes what another
claim took meanwhile, an entry is in the hands of one task or process at a time.
-/

namespace ByFramework

open Async

section Fleet

variable {ι : Type} [DecidableEq ι]

section Steps

variable {tasks : ι → FleetTask} {groupOf : Key → String} {past : List (Event effects ι)}
  {before after : Config effects Fleet ι Unit} {event : Event effects ι}

section Moves

variable {index : ι}

theorem Custody.between (custody : Custody tasks groupOf past before)
    (stores : ∀ key, key.isControl = true → after.state.store.expiresAt key = none ∧
      after.state.store.group key (groupOf key) = before.state.store.group key (groupOf key))
    (fewer : ∀ place holder, weight tasks (past ++ [event]) after place holder ≤
      weight tasks past before place holder)
    (memos : ∀ other, memoOf tasks (past ++ [event]) other = memoOf tasks past other ∨
      memoOf tasks (past ++ [event]) other = {})
    (unissued : ∀ index op reply, event ≠ .issue index op reply) :
    Custody tasks groupOf (past ++ [event]) after := by
  refine custody.quiet (fun key control => (stores key control).1)
    (fun key control => Redis.Store.lets_of_group (stores key control).2) fewer ?_
  intro other key waiting control consumes shown
  right
  rcases memos other with same | reset
  · rw [same]
    refine ⟨rfl, rfl, fun entry unclaimed => ?_⟩
    rw [overtaken_append] at unclaimed
    cases event with
    | issue index op reply => exact absurd rfl (unissued index op reply)
    | _ => exact unclaimed
  · rw [reset] at shown
    cases shown

theorem memoOf_start (index other : ι) :
    memoOf tasks (past ++ [.start index]) other = memoOf tasks past other ∧ index ≠ other ∨
      memoOf tasks (past ++ [.start index]) other = {} ∧ index = other := by
  by_cases equal : index = other
  · subst equal
    exact .inr ⟨Watch.memo_start _ _ _, rfl⟩
  · exact .inl ⟨Watch.memo_start_other _ _ equal, equal⟩

def started (before : Config effects Fleet ι Unit) (index : ι) (begun : Fleet)
    (program : Prog effects Unit) : Config effects Fleet ι Unit :=
  ⟨begun, Function.update before.task index (some program)⟩

theorem weight_started_other {other : ι} (different : index ≠ other) (place : Key × Nat)
    (begun : Fleet) (program : Prog effects Unit) :
    weight tasks (past ++ [.start index]) (started before index begun program) place
      (.inl other) = weight tasks past before place (.inl other) := by
  have same : (started before index begun program).running other = before.running other := by
    simp only [Config.running, started, ne_eq, different.symm, not_false_eq_true,
      Function.update_of_ne]
  have memo : memoOf tasks (past ++ [.start index]) other = memoOf tasks past other :=
    Watch.memo_start_other _ _ different
  simp only [weight, same, memo]

theorem weight_started_le (place : Key × Nat) (begun : Fleet) (program : Prog effects Unit) :
    weight tasks (past ++ [.start index]) (started before index begun program) place
      (.inl index) ≤ if (tasks index).entry = some place then 1 else 0 := by
  have memo : memoOf tasks (past ++ [.start index]) index = {} := Watch.memo_start _ _ _
  simp only [weight, memo, Nat.zero_add]
  split
  · exact Nat.le_refl _
  · exact Nat.zero_le _

theorem Custody.startsMessage {worker : GatewayWorker} {groupName : String}
    {message : StreamMessage} {front rest : List StreamMessage} {program : Prog effects Unit}
    (custody : Custody tasks groupOf past before) (idle : before.task index = none)
    (isMessage : tasks index = .message worker groupName message)
    (listed : (before.state.process worker.workerId).handed = front ++ message :: rest) :
    Custody tasks groupOf (past ++ [.start index]) (started before index
      (before.state.withProcess worker.workerId
        { before.state.process worker.workerId with handed := front ++ rest }) program) := by
  have home : (tasks index).home = some worker.workerId := by rw [isMessage]; rfl
  have entry : (tasks index).entry = some message.place := by rw [isMessage]; rfl
  have resting (place : Key × Nat) : weight tasks past before place (.inl index) = 0 := by
    simp only [weight, Config.not_running idle, Bool.false_eq_true, if_false]
  have held (place : Key × Nat) : weight tasks past before place (.inr worker.workerId) =
      ((front ++ rest).map StreamMessage.place).count place +
        if message.place = place then 1 else 0 := by
    simp only [weight, listed, List.map_append, List.map_cons, List.count_append,
      List.count_cons, beq_iff_eq]
    omega
  refine @Custody.moves ι _ tasks groupOf past before _ _ (.inr worker.workerId) (.inl index)
    message.place custody rfl (by simp) home ?_ ?_ ?_ ?_ ?_ ?_
  · rw [held, if_pos rfl]
    omega
  · intro place
    rw [held]
    simp only [weight, started, Fleet.withProcess, Function.update_self]
    omega
  · intro place
    have less := @weight_started_le ι _ tasks past before index place
      (before.state.withProcess worker.workerId
        { before.state.process worker.workerId with handed := front ++ rest }) program
    simp only [entry, Option.some.injEq] at less
    rw [resting, Nat.zero_add]
    exact less
  · intro place holder notGiver notTaker
    cases holder with
    | inl other =>
        exact weight_started_other (fun equal => notTaker (by rw [equal])) place _ _
    | inr other =>
        have different : other ≠ worker.workerId := fun equal => notGiver (by rw [equal])
        simp only [weight, started, Fleet.withProcess, ne_eq, different, not_false_eq_true,
          Function.update_of_ne]
  · intro other
    rcases @memoOf_start ι _ tasks past index other with ⟨same, _⟩ | ⟨reset, _⟩
    · rw [same]
      exact .inl ⟨rfl, rfl⟩
    · rw [reset]
      exact .inr rfl
  · intro other key asked unclaimed
    rw [overtaken_append] at unclaimed
    exact unclaimed

theorem Custody.starts {begun : Fleet} {program : Prog effects Unit}
    (custody : Custody tasks groupOf past before) (idle : before.task index = none)
    (begins : (tasks index).Begins before.state begun) :
    Custody tasks groupOf (past ++ [.start index]) (started before index begun program) := by
  have loop (unmoved : begun = before.state) (empty : (tasks index).entry = none) :
      Custody tasks groupOf (past ++ [.start index]) (started before index begun program) := by
    subst unmoved
    refine custody.between (fun key control => ⟨custody.lasting key control, rfl⟩) ?_
      (fun other => (memoOf_start index other).imp And.left And.left) (by rintro _ _ _ ⟨⟩)
    intro place holder
    cases holder with
    | inl other =>
        by_cases equal : index = other
        · subst equal
          have less := @weight_started_le ι _ tasks past before index place before.state program
          rw [empty] at less
          exact Nat.le_trans less (Nat.zero_le _)
        · exact Nat.le_of_eq (weight_started_other equal place _ _)
    | inr other => exact Nat.le_refl _
  generalize isTask : tasks index = task at begins loop
  cases begins with
  | message listed => exact custody.startsMessage idle isTask listed
  | loop runs =>
      refine loop rfl ?_
      cases task <;> first | rfl | cases runs
  | other => exact loop rfl rfl

theorem Custody.stops {index : ι} (custody : Custody tasks groupOf past before) :
    Custody tasks groupOf (past ++ [.stop index])
      ⟨before.state, Function.update before.task index none⟩ := by
  refine custody.between (fun key control => ⟨custody.lasting key control, rfl⟩) ?_
    (fun other => .inl (Watch.memo_stop _ _ _ _)) (by rintro _ _ _ ⟨⟩)
  intro place holder
  cases holder with
  | inl other =>
      have memo : memoOf tasks (past ++ [.stop index]) other = memoOf tasks past other :=
        Watch.memo_stop _ _ _ _
      simp only [weight, memo]
      by_cases equal : other = index
      · subst equal
        simp [Config.running]
      · simp only [Config.running, ne_eq, equal, not_false_eq_true, Function.update_of_ne]
        exact Nat.le_refl _
  | inr other => exact Nat.le_refl _

theorem Custody.lapses {later : Fleet} (custody : Custody tasks groupOf past before)
    (lapsed : Fleet.Lapse before.state later) :
    Custody tasks groupOf (past ++ [.lapse]) ⟨later, before.task⟩ := by
  have memos (other : ι) : memoOf tasks (past ++ [.lapse]) other = memoOf tasks past other :=
    Watch.memo_lapse _ _ _
  refine custody.between (fun key control => ?_) ?_ (fun other => .inl (memos other)) (by rintro _ _ _ ⟨⟩)
  · cases lapsed with
    | time now _ =>
        have kept := Redis.Store.stream_advance before.state.store now
          (custody.lasting key control)
        exact ⟨kept.2, by simp only [Redis.Store.group, kept.1]⟩
    | restart workerId => exact ⟨custody.lasting key control, rfl⟩
  · intro place holder
    cases holder with
    | inl other =>
        simp only [weight, memos, Config.running]
        exact Nat.le_refl _
    | inr other =>
        cases lapsed with
        | time now _ => exact Nat.le_refl _
        | restart workerId =>
            by_cases equal : other = workerId
            · subst equal
              simp [weight, Fleet.withProcess]
            · simp only [weight, Fleet.withProcess, ne_eq, equal, not_false_eq_true,
                Function.update_of_ne]
              exact Nat.le_refl _

end Moves

theorem Custody.step {mayFail : RedisCommand → Prop}
    (custody : Custody tasks groupOf past before)
    (grouped : ∀ key index runner, (tasks index).runner = some runner →
      runner.reads key → runner.groupName = groupOf key)
    (allowed : ∀ index op reply, event = .issue index op reply →
      (deliveryWatch (tasks index)).allow (memoOf tasks past index) op)
    (lapses : LapsesAreDeaths tasks before event) (fresh : ClaimsFresh past event)
    (taken : Step (fleetWorld mayFail tasks) before event after) :
    Custody tasks groupOf (past ++ [event]) after := by
  cases taken with
  | start idle begins => exact custody.starts idle begins.2
  | stop _ stopped =>
      obtain rfl := stopped
      exact custody.stops
  | lapse lapsed => exact custody.lapses lapsed
  | @issue index op resume reply after found served =>
      have permitted := allowed index op reply rfl
      by_cases isAside : op.isBystander = true
      · exact custody.aside grouped permitted found served isAside lapses
      · cases op with
        | redis command =>
            cases command with
            | xreadgroup key name consumer count =>
                obtain ⟨runner, runs, reads, named, rfl⟩ := permitted
                obtain rfl : name = groupOf key := named.trans (grouped key index runner runs reads)
                exact custody.read (control_of_reads reads) (home_of_runner runs) found served
            | xclaim key name consumer minIdle entries =>
                obtain ⟨runner, rounds, isLoop, reads, named, rfl, _, orphaned⟩ := permitted
                have runs : (tasks index).runner = some runner := by rw [isLoop]; rfl
                obtain rfl : name = groupOf key := named.trans (grouped key index runner runs reads)
                exact custody.claim (control_of_reads reads) (by rw [isLoop]; rfl)
                  (home_of_runner runs) orphaned fresh found served
            | xpending key name count => exact absurd rfl isAside
            | _ => exact absurd permitted isAside
        | process workerId request =>
            cases request with
            | handOver key entry command =>
                have answered : before.state.serve mayFail
                    (.process workerId (.handOver key entry command)) () after := served
                exact custody.pass permitted.2 permitted.1 found answered
            | reach moment =>
                cases moment with
                | controlMessage key entry =>
                    have answered : before.state.serve mayFail
                        (.process workerId (.reach (.controlMessage key entry))) () after := served
                    exact custody.obey found answered
                | _ => exact absurd permitted isAside
            | _ => exact absurd permitted isAside
        | _ => exact absurd permitted isAside

end Steps

theorem reclaim_never_doubles (tasks : ι → FleetTask) (mayFail : RedisCommand → Prop)
    (agree : GroupsAgree tasks) {first last : Config effects Fleet ι Unit}
    {events : List (Event effects ι)} (idle : ∀ index, first.task index = none)
    (empty : ∀ workerId, (first.state.process workerId).handed = [])
    (lasting : ∀ key, key.isControl = true → first.state.store.expiresAt key = none)
    (orderly : ∀ key name, key.isControl = true → first.state.store.Orderly key name)
    (runs : Runs (fleetWorld mayFail tasks) (LapsesAreDeaths tasks) first events last)
    (fresh : Meets ClaimsFresh events) {left right : ι} (differ : left ≠ right)
    {place : Key × Nat} (control : place.1.isControl = true)
    (leftEntry : (tasks left).entry = some place) (rightEntry : (tasks right).entry = some place) :
    ¬ (last.running left = true ∧ last.running right = true) := by
  obtain ⟨groupOf, grouped⟩ := agree.group
  have held : Watched (fun index => deliveryWatch (tasks index)) (fun _ _ _ => True) events last ∧
      Custody tasks groupOf events last := by
    refine Runs.watched (fun past config => Custody tasks groupOf past config) runs fresh idle
      ?_ ?_ ?_ ?_
    · have nothing (place : Key × Nat) (holder : ι ⊕ String) :
          weight tasks [] first place holder = 0 := by
        cases holder with
        | inl index => simp [weight, Config.not_running (idle index)]
        | inr workerId => simp [weight, empty workerId]
      refine ⟨lasting, fun key => orderly key (groupOf key), fun key entry _ => ?_, ?_, ?_⟩
      · refine ⟨fun holder => ?_, fun holder _ _ => .inl (nothing _ holder)⟩
        rw [nothing]
        exact Nat.zero_le 1
      · intro key entry holder _ has
        rw [nothing] at has
        cases has
      · intro index key waiting _ _ shown
        cases shown
    · rintro state index program after ⟨rfl, _⟩
      exact program_watched (tasks index)
    · exact fun _ _ _ _ _ _ _ _ _ _ _ => trivial
    · intro past before event after watched custody lapses current taken _
      refine custody.step grouped ?_ lapses current taken
      rintro index op reply rfl
      exact watched.allows taken
  rintro ⟨leftRuns, rightRuns⟩
  have sole := held.2.sole place.1 place.2 control
  rcases sole.apart (.inl left) (.inl right) (by simpa using differ) with none | none
  · simp [weight, leftRuns, leftEntry] at none
  · simp [weight, rightRuns, rightEntry] at none

end Fleet

/-! ### A worker that dies, and one that is slow -/

section Slow

def claimFresh (past : List (Event effects (Fin 7))) : Event effects (Fin 7) → Bool
  | .issue index (.redis (.xclaim key _ _ _ _)) (.ok taken) =>
      taken.all fun entry => !overtaken index key entry.1 past
  | .issue index (.redis (.xclaim key _ _ _ entries)) (.error _) =>
      entries.all fun entry => !overtaken index key entry past
  | _ => true

theorem claimFresh_sound (past : List (Event effects (Fin 7))) (event : Event effects (Fin 7))
    (isFresh : claimFresh past event = true) : ClaimsFresh past event := by
  rintro index key name consumer minIdle entries reply rfl entry listed
  cases reply with
  | ok taken =>
      obtain ⟨next, inside, rfl⟩ := List.mem_map.mp listed
      simpa using List.all_eq_true.mp isFresh next inside
  | error message => simpa using List.all_eq_true.mp isFresh entry listed

def lapseIsDeath (tasks : Fin 7 → FleetTask) (config : Config effects Fleet (Fin 7) Unit) :
    Event effects (Fin 7) → Bool
  | .issue index (.redis (.get (.workerOnlineLease workerId))) (.ok lease) =>
      !(tasks index).isConsume || leaseOnline lease || ((List.finRange 7).all fun other =>
        !decide ((tasks other).home = some workerId) || !config.running other) &&
          (config.state.process workerId).handed.isEmpty
  | _ => true

theorem lapseIsDeath_sound (tasks : Fin 7 → FleetTask)
    (config : Config effects Fleet (Fin 7) Unit) (event : Event effects (Fin 7))
    (isDeath : lapseIsDeath tasks config event = true) : LapsesAreDeaths tasks config event := by
  rintro index workerId lease rfl consumes lapsed
  simp only [lapseIsDeath, lapsed, consumes, Bool.not_true, Bool.false_or, Bool.and_eq_true, List.all_eq_true,
    Bool.or_eq_true, Bool.not_eq_true', decide_eq_false_iff_not, List.isEmpty_iff] at isDeath
  refine ⟨fun other home => ?_, isDeath.2⟩
  exact (isDeath.1 other (List.mem_finRange other)).resolve_left fun away => away home

def bout (index : Fin 7) (steps : Nat) : List (Move (Fin 7) Int) :=
  .start index :: List.replicate steps (.go index)

def deathMoves : List (Move (Fin 7) Int) :=
  bout 0 40 ++ bout 1 40 ++ bout 2 5 ++ bout 3 30 ++ bout 5 12 ++
    [.stop 5, .stop 3, .stop 0, .pass 61000] ++ bout 4 30 ++ bout 6 12

def deathRun : List (Event effects (Fin 7)) × Config effects Fleet (Fin 7) Unit :=
  (fleetPlayer (fleetPair leftRunner twinRunner)).play ⟨emptyFleet, fun _ => none⟩ deathMoves

theorem reclaim_never_doubles_death :
    ¬ (deathRun.2.running 5 = true ∧ deathRun.2.running 6 = true) :=
  reclaim_never_doubles (fleetPair leftRunner twinRunner) (fun _ => False) (fleetPair_agree rfl)
    (fun _ => rfl) (fun _ => rfl) (fun _ _ => rfl) (fun _ _ _ _ found => by cases found)
    ((fleetPlayer_plays _ _).runs_minding (lapseIsDeath_sound (fleetPair leftRunner twinRunner)) _ _
      (by decide +kernel))
    (Meets.of_meets claimFresh_sound (by decide +kernel)) (by decide)
    (show greetingEntry.place.1.isControl = true from rfl) rfl rfl

def slowMoves : List (Move (Fin 7) Int) :=
  bout 0 40 ++ bout 1 40 ++ bout 2 5 ++ bout 3 30 ++ bout 5 12 ++ [.pass 61000] ++ bout 4 30 ++
    bout 6 12

def slowRun : List (Event effects (Fin 7)) × Config effects Fleet (Fin 7) Unit :=
  (fleetPlayer (fleetPair leftRunner twinRunner)).play ⟨emptyFleet, fun _ => none⟩ slowMoves

/-- Whether a task has begun to handle an entry and has not finished. -/
def isInside (index : Fin 7) (place : Key × Nat) (events : List (Event effects (Fin 7))) : Bool :=
  (events.any fun event => match event with
    | .issue other (.process _ (.reach (.messageStarts key entry))) _ =>
        decide (other = index ∧ (key, entry) = place)
    | _ => false) &&
  events.all fun event => match event with
    | .issue other (.process _ (.reach (.messageHandled key entry))) _ =>
        !decide (other = index ∧ (key, entry) = place)
    | .stop other => !decide (other = index)
    | _ => true

/-- Nobody dies, and two workers handle one entry at once. -/
theorem slow_handler_doubled :
    Runs (fleetWorld (fun _ => False) (fleetPair leftRunner twinRunner)) (fun _ _ => True)
        ⟨emptyFleet, fun _ => none⟩ slowRun.1 slowRun.2 ∧
      isInside 5 greetingEntry.place slowRun.1 = true ∧
      isInside 6 greetingEntry.place slowRun.1 = true :=
  ⟨(fleetPlayer_plays _ _).runs _ _, by decide +kernel, by decide +kernel⟩

end Slow

end ByFramework
