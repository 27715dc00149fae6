import ByFramework.Async.Pool

/-!
Tasks that are watched: what each one may issue depends on the operations it issued before and
the replies it got. What is shown of one task on its own then holds of it on every run.
-/

namespace Async

/-- What is remembered of a task's exchanges, what they permit, and which replies may come. -/
structure Watch (sig : Signature) (Memo : Type) where
  first : Memo
  note : Memo → (op : sig.Op) → sig.Reply op → Memo
  allow : Memo → sig.Op → Prop
  expect : Memo → (op : sig.Op) → sig.Reply op → Prop

namespace Watch

variable {sig : Signature} {Memo State ι ρ : Type}

def serve (watch : Watch sig Memo) (memo : Memo) (op : sig.Op) (reply : sig.Reply op)
    (after : Memo) : Prop :=
  watch.expect memo op reply ∧ after = watch.note memo op reply

def setting (watch : Watch sig Memo) : Setting sig Memo := .alone watch.serve watch.allow

variable [DecidableEq ι]

def see (watch : Watch sig Memo) (index : ι) (memo : Memo) : Event sig ι → Memo
  | .issue other op reply => if other = index then watch.note memo op reply else memo
  | .start other => if other = index then watch.first else memo
  | _ => memo

def memo (watch : Watch sig Memo) (index : ι) (events : List (Event sig ι)) : Memo :=
  events.foldl (watch.see index) watch.first

theorem memo_append (watch : Watch sig Memo) (index : ι) (past : List (Event sig ι))
    (event : Event sig ι) :
    watch.memo index (past ++ [event]) = watch.see index (watch.memo index past) event := by
  simp only [memo, List.foldl_append, List.foldl_cons, List.foldl_nil]

@[simp] theorem memo_issue (watch : Watch sig Memo) (index : ι) (past : List (Event sig ι))
    (op : sig.Op) (reply : sig.Reply op) :
    watch.memo index (past ++ [.issue index op reply]) =
      watch.note (watch.memo index past) op reply := by
  rw [memo_append]
  exact if_pos rfl

theorem memo_issue_other (watch : Watch sig Memo) {index other : ι} (past : List (Event sig ι))
    (op : sig.Op) (reply : sig.Reply op) (different : other ≠ index) :
    watch.memo index (past ++ [.issue other op reply]) = watch.memo index past := by
  rw [memo_append]
  exact if_neg different

@[simp] theorem memo_start (watch : Watch sig Memo) (index : ι) (past : List (Event sig ι)) :
    watch.memo index (past ++ [.start index]) = watch.first := by
  rw [memo_append]
  exact if_pos rfl

theorem memo_start_other (watch : Watch sig Memo) {index other : ι} (past : List (Event sig ι))
    (different : other ≠ index) :
    watch.memo index (past ++ [.start other]) = watch.memo index past := by
  rw [memo_append]
  exact if_neg different

@[simp] theorem memo_stop (watch : Watch sig Memo) (index other : ι)
    (past : List (Event sig ι)) :
    watch.memo index (past ++ [.stop other]) = watch.memo index past := by
  rw [memo_append]
  rfl

@[simp] theorem memo_lapse (watch : Watch sig Memo) (index : ι) (past : List (Event sig ι)) :
    watch.memo index (past ++ [.lapse]) = watch.memo index past := by
  rw [memo_append]
  rfl

end Watch

def Watched {sig : Signature} {Memo State ι ρ : Type} [DecidableEq ι] (watch : ι → Watch sig Memo)
    (post : ι → ρ → Memo → Prop) (past : List (Event sig ι)) (config : Config sig State ι ρ) :
    Prop :=
  ∀ index program, config.task index = some program →
    program.wp (watch index).setting (post index) ((watch index).memo index past)

namespace Watched

variable {sig : Signature} {Memo State ι ρ : Type} [DecidableEq ι] {watch : ι → Watch sig Memo}
  {post : ι → ρ → Memo → Prop} {past : List (Event sig ι)} {before after : Config sig State ι ρ}
  {world : World sig State ι ρ}

theorem awaits {index : ι} {op : sig.Op} (watched : Watched watch post past before)
    (awaits : before.Awaits index op) :
    (watch index).allow ((watch index).memo index past) op := by
  obtain ⟨resume, found⟩ := awaits
  exact (watched index _ found _ rfl trivial).1

theorem allows {index : ι} {op : sig.Op} {reply : sig.Reply op}
    (watched : Watched watch post past before)
    (step : Step world before (.issue index op reply) after) :
    (watch index).allow ((watch index).memo index past) op := by
  cases step with
  | issue found served => exact (watched index _ found _ rfl trivial).1

theorem step {event : Event sig ι} (watched : Watched watch post past before)
    (taken : Step world before event after)
    (expects : ∀ index op reply, event = .issue index op reply →
      (watch index).expect ((watch index).memo index past) op reply)
    (starts : ∀ index program, event = .start index →
      world.start before.state index program after.state →
        program.wp (watch index).setting (post index) (watch index).first) :
    Watched watch post (past ++ [event]) after := by
  cases taken with
  | @issue index op resume reply after found served =>
      intro other program running
      by_cases same : other = index
      · subst same
        simp only [Function.update_self, Option.some.injEq] at running
        subst running
        rw [Watch.memo_issue]
        exact (watched other _ found _ rfl trivial).2 reply _
          ⟨expects other op reply rfl, rfl⟩ trivial
      · simp only [ne_eq, same, not_false_eq_true, Function.update_of_ne] at running
        rw [Watch.memo_issue_other _ _ _ _ (Ne.symm same)]
        exact watched other program running
  | @start index program after free started =>
      intro other running found
      by_cases same : other = index
      · subst same
        simp only [Function.update_self, Option.some.injEq] at found
        subst found
        rw [Watch.memo_start]
        exact starts other program rfl started
      · simp only [ne_eq, same, not_false_eq_true, Function.update_of_ne] at found
        rw [Watch.memo_start_other _ _ (Ne.symm same)]
        exact watched other running found
  | @stop index program after found stopped =>
      intro other running still
      rw [Watch.memo_stop]
      by_cases same : other = index
      · subst same
        simp at still
      · simp only [ne_eq, same, not_false_eq_true, Function.update_of_ne] at still
        exact watched other running still
  | lapse lapsed =>
      intro other running still
      rw [Watch.memo_lapse]
      exact watched other running still

end Watched

/-- Every event of a run satisfies a condition on it and what came before. -/
def Meets {sig : Signature} {ι : Type} (holds : List (Event sig ι) → Event sig ι → Prop)
    (events : List (Event sig ι)) : Prop :=
  ∀ past event rest, events = past ++ event :: rest → holds past event

theorem Meets.last {sig : Signature} {ι : Type}
    {holds : List (Event sig ι) → Event sig ι → Prop} {past : List (Event sig ι)}
    {event : Event sig ι} (meets : Meets holds (past ++ [event])) :
    Meets holds past ∧ holds past event := by
  refine ⟨fun earlier found rest split => ?_, meets past event [] rfl⟩
  exact meets earlier found (rest ++ [event]) (by simp [split])

theorem Meets.append {sig : Signature} {ι : Type}
    {holds : List (Event sig ι) → Event sig ι → Prop} {past : List (Event sig ι)}
    {event : Event sig ι} (meets : Meets holds past) (current : holds past event) :
    Meets holds (past ++ [event]) := by
  intro earlier found rest split
  cases rest using List.reverseRecOn with
  | nil =>
      obtain ⟨rfl, same⟩ := List.append_inj' split rfl
      obtain rfl := List.singleton_injective same
      exact current
  | append_singleton rest last ih =>
      have shorter : past ++ [event] = (earlier ++ found :: rest) ++ [last] := by simp [split]
      obtain ⟨inside, -⟩ := List.append_inj' shorter rfl
      exact meets earlier found rest inside

def meets {sig : Signature} {ι : Type} (check : List (Event sig ι) → Event sig ι → Bool) :
    List (Event sig ι) → List (Event sig ι) → Bool
  | _, [] => true
  | past, event :: rest => check past event && meets check (past ++ [event]) rest

theorem Meets.of_meets {sig : Signature} {ι : Type}
    {holds : List (Event sig ι) → Event sig ι → Prop}
    {check : List (Event sig ι) → Event sig ι → Bool}
    (sound : ∀ past event, check past event = true → holds past event)
    {events : List (Event sig ι)} (all : meets check [] events = true) : Meets holds events := by
  have each (earlier : List (Event sig ι)) : ∀ events, meets check earlier events = true →
      ∀ past event rest, events = past ++ event :: rest → holds (earlier ++ past) event := by
    intro events
    induction events generalizing earlier with
    | nil =>
        intro _ past event rest split
        cases past <;> cases split
    | cons first others ih =>
        intro all past event rest split
        simp only [meets, Bool.and_eq_true] at all
        cases past with
        | nil =>
            obtain ⟨rfl, _⟩ := List.cons.inj split
            rw [List.append_nil]
            exact sound earlier first all.1
        | cons head past =>
            obtain ⟨rfl, same⟩ := List.cons.inj split
            have later := ih (earlier ++ [first]) all.2 past event rest same
            rwa [List.append_assoc] at later
  intro past event rest split
  exact each [] events all past event rest split

section Runs

variable {sig : Signature} {Memo State ι ρ : Type} [DecidableEq ι] {watch : ι → Watch sig Memo}
  {post : ι → ρ → Memo → Prop} {world : World sig State ι ρ}
  {permits : Config sig State ι ρ → Event sig ι → Prop} {first last : Config sig State ι ρ}
  {events : List (Event sig ι)}

/-- What each event keeps, given what the tasks' own pasts permit, holds at the end of a run. -/
theorem Runs.watched {holds : List (Event sig ι) → Event sig ι → Prop}
    (fact : List (Event sig ι) → Config sig State ι ρ → Prop)
    (runs : Runs world permits first events last) (meets : Meets holds events)
    (idle : ∀ index, first.task index = none) (initial : fact [] first)
    (starts : ∀ state index program after, world.start state index program after →
      program.wp (watch index).setting (post index) (watch index).first)
    (expects : ∀ past before index op reply after, Watched watch post past before →
      fact past before → permits before (.issue index op reply) →
      holds past (.issue index op reply) → Step world before (.issue index op reply) after →
      (watch index).expect ((watch index).memo index past) op reply)
    (kept : ∀ past before event after, Watched watch post past before → fact past before →
      permits before event → holds past event → Step world before event after →
      Watched watch post (past ++ [event]) after → fact (past ++ [event]) after) :
    Watched watch post events last ∧ fact events last := by
  induction runs with
  | refl =>
      refine ⟨fun index program running => ?_, initial⟩
      rw [idle index] at running
      cases running
  | @step past middle event final earlier permitted taken ih =>
      obtain ⟨met, current⟩ := meets.last
      obtain ⟨watched, holding⟩ := ih met
      have next : Watched watch post (past ++ [event]) final := by
        refine watched.step taken ?_ ?_
        · rintro index op reply rfl
          exact expects past middle index op reply final watched holding permitted current taken
        · rintro index program rfl started
          exact starts _ index program _ started
      exact ⟨next, kept past middle event final watched holding permitted current taken next⟩

end Runs

end Async
