import ByFramework.GroupCollectCore
import Mathlib.Data.Rat.Floor
import Mathlib.Data.List.Nodup

/-!
What collecting the results of a Task Group comes to. Every poll sees what the polls before it saw,
and the loop keeps all it has read.
-/

namespace ByFramework

open Async

/-- A Task Group of `total` members, what its results hash holds at each poll, and the clock at
each reading. -/
structure GroupHistory where
  taskGroupId : String
  total : Nat
  contents : Nat → List (String × Value)
  clock : Nat → Int
  named : taskGroupId ≠ ""
  fields : ∀ poll, ((contents poll).map Prod.fst).Nodup
  grows : ∀ poll, contents poll ⊆ contents (poll + 1)
  members : ∀ poll, (contents poll).length ≤ total
  runsOn : ∀ bound, ∃ reading, bound ≤ clock reading

structure ReadsMade where
  polls : Nat
  readings : Nat
deriving DecidableEq

namespace GroupHistory

variable (history : GroupHistory)

def answer (reads : ReadsMade) : (op : Op) → op.Reply × ReadsMade
  | .redis (.hget _ _) => (.ok (some (.number history.total)), reads)
  | .redis (.hgetall _) =>
      (.ok (history.contents reads.polls), { reads with polls := reads.polls + 1 })
  | .now => (history.clock reads.readings, { reads with readings := reads.readings + 1 })
  | op => ((redisAnswer Redis.Store.empty op).1, reads)

def collect (polls : Nat) (timeout : Rat) :
    (Except JsError (Option (List GroupResult)) × Unit) × ReadsMade :=
  (Task.start (collectGroupResults polls history.taskGroupId timeout) ()).run history.answer ⟨0, 0⟩

def elapsed (reading : Nat) : Rat := ((history.clock reading - history.clock 0 : Int) : Rat) / 1000

def shown (poll : Nat) : List GroupResult := readable (history.contents poll)

/-- Every member once; fewer than all only at the timeout; and all that the last poll showed. -/
structure Exact (timeout : Rat) (results : List GroupResult) (reads : ReadsMade) : Prop where
  once : (results.map GroupResult.messageId).Nodup
  early : history.elapsed (reads.readings - 1) < timeout → results.length = history.total
  last : ∀ poll, reads.polls = poll + 1 → history.shown poll ⊆ results

/-- The call returns, and what it returns is exact. -/
def CollectsExactly (timeout : Rat) : Prop :=
  ∃ polls results reads, history.collect polls timeout = ((.ok (some results), ()), reads) ∧
    history.Exact timeout results reads

/-- A poll that another one follows before the timeout shows no member yet, or all of them. -/
def ShownAtOnce (timeout : Rat) : Prop :=
  ∀ poll, (∀ check ≤ poll + 1, history.elapsed (check + 1) < timeout) →
    history.shown poll = [] ∨ (history.shown poll).length = history.total

/-! ### The loop, round by round -/

variable {history} {timeout : Rat}

/-- What the loop comes to from its round `poll` on, with `results` collected so far. -/
def loop (history : GroupHistory) (timeout : Rat) (polls poll : Nat)
    (results : List GroupResult) :
    (Except JsError (Option (List GroupResult)) × Unit) × ReadsMade :=
  (Task.start (collectPolls (.taskGroupResults history.taskGroupId) (some (some history.total))
    timeout (history.clock 0) polls results) ()).run history.answer ⟨poll, poll + 1⟩

theorem run_dateNow_bind {β : Type} (next : Int → Proc Unit β) (reads : ReadsMade) :
    (Task.start (dateNow >>= next) ()).run history.answer reads =
      (Task.start (next (history.clock reads.readings)) ()).run history.answer
        { reads with readings := reads.readings + 1 } := rfl

theorem run_hget_bind {β : Type} (key : Key) (field : String)
    (next : Option Value → Proc Unit β) (reads : ReadsMade) :
    (Task.start (redis (.hget key field) >>= next) ()).run history.answer reads =
      (Task.start (next (some (.number history.total))) ()).run history.answer reads := by
  rw [start_redis_bind]
  rfl

theorem run_hgetall_bind {β : Type} (key : Key) (next : List (String × Value) → Proc Unit β)
    (reads : ReadsMade) :
    (Task.start (redis (.hgetall key) >>= next) ()).run history.answer reads =
      (Task.start (next (history.contents reads.polls)) ()).run history.answer
        { reads with polls := reads.polls + 1 } := by
  rw [start_redis_bind]
  rfl

theorem collect_eq (polls : Nat) :
    history.collect polls timeout = history.loop timeout polls 0 [] := by
  have total : groupTotal (some (.number history.total)) = some (some (history.total : Int)) := rfl
  unfold collect collectGroupResults
  rw [if_neg history.named, run_hget_bind, run_dateNow_bind, total]
  rfl

theorem loop_succ (polls poll : Nat) (results : List GroupResult) :
    history.loop timeout (polls + 1) poll results =
      if results.length < history.total then
        if timeout ≤ history.elapsed (poll + 1) then
          ((.ok (some results), ()), ⟨poll, poll + 2⟩)
        else if (results ++ history.shown poll).length < history.total then
          history.loop timeout polls (poll + 1) (results ++ history.shown poll)
        else ((.ok (some (results ++ history.shown poll)), ()), ⟨poll + 1, poll + 2⟩)
      else ((.ok (some results), ()), ⟨poll, poll + 1⟩) := by
  have below (count : Nat) : (belowTotal count (some (some (history.total : Int))) = true) =
      (count < history.total) := by simp [belowTotal, belowParsed]
  unfold loop
  rw [collectPolls]
  simp only [below]
  split
  · rw [run_dateNow_bind]
    change (Task.start (if timeout ≤ history.elapsed (poll + 1) then _ else _) ()).run _ _ = _
    split
    · rfl
    · rw [run_hgetall_bind]
      change (Task.start (if (results ++ history.shown poll).length < history.total
        then _ else _) ()).run _ _ = _
      split
      · rfl
      · rfl
  · rfl

theorem loop_keeps {polls poll : Nat} {results final : List GroupResult} {reads : ReadsMade}
    (ends : history.loop timeout polls poll results = ((.ok (some final), ()), reads)) :
    results <+: final := by
  induction polls generalizing poll results with
  | zero => simp [loop, collectPolls, Prog.run] at ends
  | succ polls ih =>
      rw [loop_succ] at ends
      split at ends
      · split at ends
        · obtain rfl : results = final := by simpa using congrArg (·.1.1) ends
          exact List.prefix_rfl
        · split at ends
          · exact (List.prefix_append results _).trans (ih ends)
          · obtain rfl : results ++ history.shown poll = final := by
              simpa using congrArg (·.1.1) ends
            exact List.prefix_append results _
      · obtain rfl : results = final := by simpa using congrArg (·.1.1) ends
        exact List.prefix_rfl

theorem readGroupResult_messageId {messageId : String} {value : Value} {result : GroupResult}
    (read : readGroupResult messageId value = some result) : result.messageId = messageId := by
  unfold readGroupResult at read
  split at read <;> cases read <;> rfl

theorem shown_once (poll : Nat) : ((history.shown poll).map GroupResult.messageId).Nodup := by
  have fields := history.fields poll
  unfold shown
  generalize history.contents poll = rawResults at fields
  induction rawResults with
  | nil => exact List.nodup_nil
  | cons entry rest ih =>
      rw [List.map_cons, List.nodup_cons] at fields
      have others := ih fields.2
      unfold readable at others ⊢
      rw [List.filterMap_cons]
      split
      · exact others
      · rename_i result read
        rw [List.map_cons, List.nodup_cons]
        refine ⟨?_, others⟩
        rw [readGroupResult_messageId read]
        intro twice
        obtain ⟨other, listed, same⟩ := List.mem_map.mp twice
        obtain ⟨field, present, readOther⟩ := List.mem_filterMap.mp listed
        rw [readGroupResult_messageId readOther] at same
        exact fields.1 (same ▸ List.mem_map_of_mem present)

theorem shown_length_le (poll : Nat) : (history.shown poll).length ≤ history.total :=
  (List.length_filterMap_le _ _).trans (history.members poll)

theorem shown_grows {earlier later : Nat} (order : earlier ≤ later) :
    history.shown earlier ⊆ history.shown later := by
  induction order with
  | refl => exact List.Subset.refl _
  | @step between order ih =>
      intro result first
      have listed := ih first
      obtain ⟨entry, present, read⟩ := List.mem_filterMap.mp listed
      exact List.mem_filterMap.mpr ⟨entry, history.grows between present, read⟩

theorem shown_length_mono {earlier later : Nat} (order : earlier ≤ later) :
    (history.shown earlier).length ≤ (history.shown later).length := by
  have distinct : (history.shown earlier).Nodup := (history.shown_once earlier).of_map _
  exact (distinct.subperm (shown_grows order)).length_le

/-! ### When it is exact -/

/-- No member showed before a poll, and no check before it found the timeout passed. -/
structure StillBlank (history : GroupHistory) (timeout : Rat) (poll : Nat) : Prop where
  going : ∀ check < poll, history.elapsed (check + 1) < timeout
  blank : ∀ check < poll, history.shown check = []

theorem StillBlank.goes_on {poll : Nat} (still : history.StillBlank timeout poll)
    (here : history.elapsed (poll + 1) < timeout) :
    ∀ check < poll + 1, history.elapsed (check + 1) < timeout := by
  intro check sooner
  by_cases same : check = poll
  · rw [same]
    exact here
  · exact still.going check (by omega)

theorem StillBlank.succ {poll : Nat} (still : history.StillBlank timeout poll)
    (here : history.elapsed (poll + 1) < timeout) (none : history.shown poll = []) :
    history.StillBlank timeout (poll + 1) where
  going := still.goes_on here
  blank check sooner := by
    by_cases same : check = poll
    · rw [same]
      exact none
    · exact still.blank check (by omega)

theorem StillBlank.exact {poll readings : Nat} (still : history.StillBlank timeout poll)
    (complete : history.elapsed (readings - 1) < timeout → history.total = 0) :
    history.Exact timeout [] ⟨poll, readings⟩ where
  once := List.nodup_nil
  early before := (complete before).symm
  last earlier next := by
    have sooner : earlier < poll := by
      have same : poll = earlier + 1 := next
      omega
    rw [still.blank earlier sooner]
    exact List.Subset.refl _

theorem exact_of_last {poll readings : Nat}
    (complete : history.elapsed (readings - 1) < timeout →
      (history.shown poll).length = history.total) :
    history.Exact timeout (history.shown poll) ⟨poll + 1, readings⟩ where
  once := shown_once poll
  early := complete
  last earlier next := by
    have same : poll + 1 = earlier + 1 := next
    obtain rfl : earlier = poll := by omega
    exact List.Subset.refl _

theorem ShownAtOnce.timeout_follows (atOnce : history.ShownAtOnce timeout) {poll : Nat}
    (still : history.StillBlank timeout poll) (here : history.elapsed (poll + 1) < timeout)
    (some : history.shown poll ≠ []) (fewer : (history.shown poll).length < history.total) :
    timeout ≤ history.elapsed (poll + 2) := by
  by_contra going
  rw [not_le] at going
  have checks : ∀ check ≤ poll + 1, history.elapsed (check + 1) < timeout := by
    intro check sooner
    by_cases same : check = poll + 1
    · rw [same]
      exact going
    · exact still.goes_on here check (by omega)
  rcases atOnce poll checks with none | all
  · exact some none
  · omega

theorem loop_exact (atOnce : history.ShownAtOnce timeout) {late : Nat}
    (timedOut : timeout ≤ history.elapsed (late + 1)) (polls poll : Nat)
    (still : history.StillBlank timeout poll) (enough : late < poll + polls) :
    ∃ results reads, history.loop timeout (polls + 1) poll [] = ((.ok (some results), ()), reads) ∧
      history.Exact timeout results reads := by
  induction polls generalizing poll with
  | zero => exact absurd timedOut (not_le.mpr (still.going late (by omega)))
  | succ polls ih =>
      rw [loop_succ]
      by_cases members : ([] : List GroupResult).length < history.total
      · rw [if_pos members]
        by_cases here : timeout ≤ history.elapsed (poll + 1)
        · rw [if_pos here]
          exact ⟨[], _, rfl, still.exact fun early => absurd here (not_le.mpr early)⟩
        · rw [if_neg here, List.nil_append]
          rw [not_le] at here
          by_cases fewer : (history.shown poll).length < history.total
          · rw [if_pos fewer]
            by_cases none : history.shown poll = []
            · rw [none]
              exact ih (poll + 1) (still.succ here none) (by omega)
            · have final := atOnce.timeout_follows still here none fewer
              rw [loop_succ, if_pos fewer, if_pos final]
              exact ⟨history.shown poll, _, rfl,
                exact_of_last fun early => absurd final (not_le.mpr early)⟩
          · rw [if_neg fewer]
            have most := history.shown_length_le poll
            exact ⟨history.shown poll, _, rfl, exact_of_last fun _ => by omega⟩
      · rw [if_neg members]
        refine ⟨[], _, rfl, still.exact fun _ => ?_⟩
        rw [List.length_nil] at members
        omega

theorem loop_repeats {polls poll shows : Nat} (order : poll ≤ shows)
    (checks : ∀ check ≤ shows + 1, history.elapsed (check + 1) < timeout)
    (member : history.shown shows ≠ []) (fewer : (history.shown shows).length < history.total)
    {results : List GroupResult} {reads : ReadsMade}
    (ends : history.loop timeout polls poll [] = ((.ok (some results), ()), reads)) :
    ¬(results.map GroupResult.messageId).Nodup := by
  induction polls generalizing poll with
  | zero => simp [loop, collectPolls, Prog.run] at ends
  | succ polls ih =>
      have smaller := history.shown_length_mono order
      have here : ¬timeout ≤ history.elapsed (poll + 1) :=
        not_le.mpr (checks poll (by omega))
      rw [loop_succ, if_pos (by simp only [List.length_nil]; omega), if_neg here,
        List.nil_append, if_pos (by omega)] at ends
      by_cases none : history.shown poll = []
      · rw [none] at ends
        have later : poll ≠ shows := by
          rintro rfl
          exact member none
        exact ih (by omega) ends
      · have next : ¬timeout ≤ history.elapsed (poll + 1 + 1) :=
          not_le.mpr (checks (poll + 1) (by omega))
        -- both polls have shown `result` by now
        have kept : history.shown poll ++ history.shown (poll + 1) <+: results := by
          cases polls with
          | zero => simp [loop, collectPolls, Prog.run] at ends
          | succ polls =>
              rw [loop_succ, if_pos (by omega), if_neg next] at ends
              split at ends
              · exact loop_keeps ends
              · obtain rfl : history.shown poll ++ history.shown (poll + 1) = results := by
                  simpa using congrArg (·.1.1) ends
                exact List.prefix_rfl
        obtain ⟨result, shown⟩ := List.exists_mem_of_ne_nil _ none
        intro once
        have both := once.sublist (kept.sublist.map GroupResult.messageId)
        rw [List.map_append, List.nodup_append] at both
        exact both.2.2 _ (List.mem_map_of_mem shown) _
          (List.mem_map_of_mem (shown_grows (Nat.le_succ poll) shown)) rfl

theorem timeout_comes (history : GroupHistory) (timeout : Rat) :
    ∃ check, timeout ≤ history.elapsed (check + 1) := by
  obtain ⟨reading, reached⟩ :=
    history.runsOn (history.clock 0 + max 1 ⌈timeout * 1000⌉)
  have positive : reading ≠ 0 := by
    rintro rfl
    omega
  obtain ⟨check, rfl⟩ := Nat.exists_eq_succ_of_ne_zero positive
  refine ⟨check, ?_⟩
  have ceiling : timeout * 1000 ≤ (⌈timeout * 1000⌉ : Rat) := Int.le_ceil _
  have ahead : ⌈timeout * 1000⌉ ≤ history.clock (check + 1) - history.clock 0 := by
    have here : history.clock 0 + max 1 ⌈timeout * 1000⌉ ≤ history.clock (check + 1) := reached
    omega
  have cast : (⌈timeout * 1000⌉ : Rat) ≤
      ((history.clock (check + 1) - history.clock 0 : Int) : Rat) := by
    exact_mod_cast ahead
  unfold elapsed
  rw [le_div_iff₀ (by norm_num)]
  exact ceiling.trans cast

end GroupHistory

open GroupHistory in
/-- Collecting a group is exact precisely when no poll but the last one before the timeout shows
some of its members and not all. -/
theorem collects_exactly_iff (history : GroupHistory) (timeout : Rat) :
    history.CollectsExactly timeout ↔ history.ShownAtOnce timeout := by
  constructor
  · rintro ⟨polls, results, reads, ends, exact⟩ poll checks
    rw [collect_eq] at ends
    by_contra neither
    rw [not_or] at neither
    have most := history.shown_length_le poll
    have fewer : (history.shown poll).length < history.total := by omega
    exact loop_repeats (Nat.zero_le poll) checks neither.1 fewer ends exact.once
  · intro atOnce
    obtain ⟨late, timedOut⟩ := timeout_comes history timeout
    have still : history.StillBlank timeout 0 := ⟨by simp, by simp⟩
    obtain ⟨results, reads, ends, exact⟩ := loop_exact atOnce timedOut (late + 1) 0 still
      (by omega)
    exact ⟨late + 2, results, reads, by rw [collect_eq, ends], exact⟩

def completedWith (reply : String) : StoredResult where
  status := AgentState.completed
  replyData := .string reply
  content := .string ""
  targetAgentType := "agent"
  metadata := []
  extraPayload := []

/-- Two members, of which one replies at once and the other after a while. -/
def staggeredGroup : GroupHistory where
  taskGroupId := "tg-1"
  total := 2
  contents poll := ("msg-a", .result (completedWith "a")) ::
    if poll < 3 then [] else [("msg-b", .result (completedWith "b"))]
  clock reading := 100 * reading
  named := by decide
  fields poll := by
    split
    · simp
    · simp
  grows poll := by
    intro entry listed
    rcases List.mem_cons.mp listed with first | second
    · exact List.mem_cons.mpr (.inl first)
    · split at second
      · cases second
      · rename_i late
        rw [if_neg (by omega)]
        exact List.mem_cons_of_mem _ second
  members poll := by
    split
    · simp
    · simp
  runsOn bound := by
    refine ⟨bound.toNat, ?_⟩
    have enough := Int.self_le_toNat bound
    omega

/-- The second poll reads the first member again and makes it pass for both. -/
theorem staggered_group_collected_twice :
    ¬staggeredGroup.CollectsExactly 30 ∧
    ∃ first, readGroupResult "msg-a" (.result (completedWith "a")) = some first ∧
      (staggeredGroup.collect 2 30).1.1 = .ok (some [first, first]) := by
  constructor
  · rintro ⟨polls, results, reads, ends, exact⟩
    rw [GroupHistory.collect_eq] at ends
    refine GroupHistory.loop_repeats (Nat.le_refl 0) ?_ ?_ ?_ ends exact.once
    · intro check soon
      have few : check = 0 ∨ check = 1 := by omega
      rcases few with rfl | rfl
      · simp only [GroupHistory.elapsed, staggeredGroup]
        norm_num
      · simp only [GroupHistory.elapsed, staggeredGroup]
        norm_num
    · simp [GroupHistory.shown, readable, readGroupResult, staggeredGroup]
    · decide
  · refine ⟨_, rfl, ?_⟩
    decide +kernel

end ByFramework
