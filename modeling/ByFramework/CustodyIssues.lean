import ByFramework.EntryCustody

/-! What the operations of the tasks of a fleet do to the entries the tasks have in hand. -/

namespace ByFramework

open Async

section Fleet

variable {ι : Type} [DecidableEq ι] {tasks : ι → FleetTask} {groupOf : Key → String}
  {past : List (Event effects ι)} {before : Config effects Fleet ι Unit}

section Issue

variable {index : ι} {op : Op} {reply : op.Reply} {resume : op.Reply → Prog effects Unit}
  {served : Fleet}

def issued (before : Config effects Fleet ι Unit) (index : ι) (served : Fleet)
    (program : Prog effects Unit) : Config effects Fleet ι Unit :=
  ⟨served, Function.update before.task index (some program)⟩

theorem weight_running (found : before.task index = some (.call op resume)) (place : Key × Nat) :
    weight tasks past before place (.inl index) = (memoOf tasks past index).credit place +
      if (tasks index).entry = some place then 1 else 0 := by
  simp only [weight, Config.running_of_call found, if_true]

theorem weight_issued_le (place : Key × Nat) (program : Prog effects Unit) :
    weight tasks (past ++ [.issue index op reply]) (issued before index served program) place
        (.inl index) ≤ ((memoOf tasks past index).note op reply).credit place +
      if (tasks index).entry = some place then 1 else 0 := by
  simp only [weight, memoOf_issue]
  split
  · exact Nat.le_refl _
  · exact Nat.zero_le _

theorem weight_issued_other {other : ι} (different : index ≠ other) (place : Key × Nat)
    (program : Prog effects Unit) :
    weight tasks (past ++ [.issue index op reply]) (issued before index served program) place
      (.inl other) = weight tasks past before place (.inl other) := by
  have same : (issued before index served program).running other = before.running other := by
    simp only [Config.running, issued, ne_eq, different.symm, not_false_eq_true,
      Function.update_of_ne]
  simp only [weight, same, memoOf_issue_other different]

omit [DecidableEq ι] in
theorem answer_handed {memory : ProcessMemory} {request : ProcessRequest}
    (kept : ∀ key entry command, request ≠ .handOver key entry command) :
    (memory.answer request).2.handed = memory.handed := by
  cases request with
  | handOver key entry command => exact absurd rfl (kept key entry command)
  | _ => rfl

omit [DecidableEq ι] in
theorem serve_handed {mayFail : RedisCommand → Prop} {fleet served : Fleet} {op : Op}
    {reply : op.Reply} (answered : fleet.serve mayFail op reply served)
    (kept : ∀ workerId key entry command,
      op ≠ .process workerId (.handOver key entry command)) (workerId : String) :
    (served.process workerId).handed = (fleet.process workerId).handed := by
  cases op with
  | redis command =>
      rw [(Fleet.serve_redis answered).1]
  | process worker request =>
      obtain ⟨_, rfl⟩ := answered
      by_cases same : workerId = worker
      · subst same
        simp only [Fleet.withProcess, Function.update_self]
        refine answer_handed fun key entry command equal => ?_
        exact kept workerId key entry command (by rw [equal])
      · simp [Fleet.withProcess, same]
  | _ =>
      obtain rfl := answered
      rfl

def Op.isLook : Op → Bool
  | .redis (.xpending _ _ _) | .redis (.get (.workerOnlineLease _)) => true
  | _ => false

omit [DecidableEq ι] in
theorem note_unlooked (memo : DeliveryMemo) {op : Op} (aside : op.isBystander = true)
    (unlooked : op.isLook = false) (reply : op.Reply) : memo.note op reply = memo := by
  unfold DeliveryMemo.note
  split
  · cases aside
  · cases aside
  · cases aside
  · cases unlooked
  · cases unlooked
  · cases aside
  · cases aside
  · rfl

theorem overtaken_aside {op : Op} (aside : op.isBystander = true) (reply : op.Reply)
    (other : ι) (unlooked : (∀ looked name count, op ≠ .redis (.xpending looked name count)) ∨
      index ≠ other) (key : Key) (entry : Nat) :
    overtaken other key entry (past ++ [.issue index op reply]) =
      overtaken other key entry past := by
  rw [overtaken_append]
  unfold overtakes
  split
  · rename_i same
    cases same
    rcases unlooked with never | different
    · exact absurd rfl (never _ _ _)
    · simp [different]
  · rename_i same
    cases same
    cases aside
  · rfl

theorem serve_lets {mayFail : RedisCommand → Prop} {fleet served : Fleet} {op : Op}
    {reply : op.Reply} (answered : fleet.serve mayFail op reply served)
    (isAside : op.isBystander = true) {key : Key} (control : key.isControl = true)
    (name : String) : fleet.store.Lets served.store key name := by
  cases op with
  | redis command =>
      have keeps : command.keeps Key.isControl = true := by
        cases command <;> first | exact isAside | rfl
      refine Fleet.serve_store (fun store => fleet.store.Lets store key name) answered
        (Redis.Store.lets_of_group rfl) ?_
      refine Redis.Store.lets_exec fleet.store ?_ ?_ keeps control name
      · rintro read asked consumer count rfl
        cases isAside
      · rintro claimed asked consumer minIdle entries rfl
        cases isAside
  | _ =>
      rw [Fleet.serve_other answered (by rintro command ⟨⟩)]
      exact Redis.Store.lets_of_group rfl

theorem look_of_xpending {mayFail : RedisCommand → Prop} {key : Key} {count : Nat}
    {waiting : List Redis.PendingSummary} {program : Prog effects Unit}
    (orderly : before.state.store.Orderly key (groupOf key))
    (answered : before.state.serve mayFail (.redis (.xpending key (groupOf key) count))
      (.ok waiting) served) :
    LookHolds tasks groupOf
      (past ++ [.issue index (.redis (.xpending key (groupOf key) count)) (.ok waiting)])
      (issued before index served program) index key waiting := by
  have done := Fleet.serve_ok answered
  cases found : before.state.store.group key (groupOf key) with
  | none =>
      simp only [Redis.Store.exec, found] at done
      cases done
  | some group =>
      simp only [Redis.Store.exec, found, Prod.mk.injEq, Except.ok.injEq] at done
      obtain ⟨rfl, same⟩ := done
      have known := orderly group found
      have ids : ((group.pending.take count).map fun waiting =>
          (⟨waiting.entry, waiting.consumer, before.state.store.clock - waiting.since⟩ :
            Redis.PendingSummary)).map Redis.PendingSummary.entry =
          (group.pending.take count).map Redis.Pending.entry := by
        rw [List.map_map]
        rfl
      refine ⟨?_, fun summary listed => ?_⟩
      · rw [ids, List.map_take]
        exact known.distinct.sublist (List.take_sublist _ _)
      · obtain ⟨owner, early, rfl⟩ := List.mem_map.mp listed
        have inside := List.mem_of_mem_take early
        refine ⟨?_, fun _ other owns => ⟨?_, ?_⟩⟩
        · have low := known.handed owner inside
          simp only [issued, ← same]
          simpa [Redis.Store.delivered, found] using low
        · have owned := (Redis.Group.owned_eq_some known).mpr inside
          simp only [issued, ← same, Redis.Store.owned, found, Option.bind_some, owned] at owns
          cases owns
          rfl
        · rw [memoOf_issue]
          intro lapsed
          cases lapsed

theorem weight_gains {mayFail : RedisCommand → Prop} {got : Key × Nat → Prop}
    (found : before.task index = some (.call op resume))
    (answered : before.state.serve mayFail op reply served)
    (kept : ∀ workerId key entry command, op ≠ .process workerId (.handOver key entry command))
    (brings : ∀ place, ((memoOf tasks past index).note op reply).credit place ≤
        (memoOf tasks past index).credit place ∨
      got place ∧ ((memoOf tasks past index).note op reply).credit place ≤
        (memoOf tasks past index).credit place + 1)
    (place : Key × Nat) (holder : ι ⊕ String) :
    weight tasks (past ++ [.issue index op reply]) (issued before index served (resume reply))
        place holder ≤ weight tasks past before place holder ∨
      holder = .inl index ∧ got place ∧
        weight tasks (past ++ [.issue index op reply]) (issued before index served (resume reply))
          place holder ≤ weight tasks past before place holder + 1 := by
  cases holder with
  | inl other =>
      by_cases equal : index = other
      · subst equal
        have less := @weight_issued_le ι _ tasks past before index op reply served place
          (resume reply)
        rw [weight_running found]
        rcases brings place with fewer | ⟨gained, more⟩
        · left
          omega
        · exact .inr ⟨rfl, gained, by omega⟩
      · exact .inl (weight_issued_other equal place _).le
  | inr workerId =>
      have same := serve_handed answered kept workerId
      simp only [weight, issued, same]
      exact .inl (Nat.le_refl _)

theorem weight_aside {mayFail : RedisCommand → Prop}
    (found : before.task index = some (.call op resume))
    (answered : before.state.serve mayFail op reply served) (isAside : op.isBystander = true)
    (place : Key × Nat) (holder : ι ⊕ String) :
    weight tasks (past ++ [.issue index op reply]) (issued before index served (resume reply))
      place holder ≤ weight tasks past before place holder := by
  have gains := @weight_gains ι _ tasks past before index op reply resume served mayFail
    (fun _ => False) found answered (by
      rintro other key entry command rfl
      cases isAside) fun place => .inl (by rw [note_bystander _ isAside reply])
  rcases gains place holder with less | ⟨_, gained, _⟩
  · exact less
  · exact gained.elim

theorem look_of_lease {mayFail : RedisCommand → Prop} {workerId : String} {lease : Option Value}
    {resume : Except String (Option Value) → Prog effects Unit}
    (custody : Custody tasks groupOf past before)
    (found : before.task index = some (@Prog.call effects Unit
      (.redis (.get (.workerOnlineLease workerId))) resume))
    (answered : before.state.serve mayFail (.redis (.get (.workerOnlineLease workerId)))
      (.ok lease) served)
    (gone : Gone tasks before workerId) {key : Key} {waiting : List Redis.PendingSummary}
    (control : key.isControl = true)
    (look : LookHolds tasks groupOf past before index key waiting)
    (lapsed : leaseOnline lease = false) :
    LookHolds tasks groupOf
      (past ++ [.issue index (.redis (.get (.workerOnlineLease workerId))) (.ok lease)])
      (issued before index served (resume (.ok lease))) index key waiting := by
  have less := @weight_aside ι _ tasks past before index
    (.redis (.get (.workerOnlineLease workerId))) (.ok lease) resume served mayFail found
    answered rfl
  have lets := serve_lets answered rfl control (groupOf key)
  have still := @overtaken_aside ι _ past index (.redis (.get (.workerOnlineLease workerId))) rfl
    (.ok lease) index (.inl nofun) key
  have grows : served.store.delivered key (groupOf key) =
    before.state.store.delivered key (groupOf key) := lets.delivered
  have noted : (memoOf tasks (past ++
      [.issue index (.redis (.get (.workerOnlineLease workerId))) (.ok lease)]) index).offline =
        workerId :: (memoOf tasks past index).offline := by
    rw [memoOf_issue]
    simp [DeliveryMemo.note, lapsed]
  have nobody (holder : ι ⊕ String) (entry : Nat) (owner : Redis.Pending)
      (owns : before.state.store.owned key (groupOf key) entry = some owner)
      (named : owner.consumer = workerId) :
      weight tasks past before (key, entry) holder = 0 := by
    by_contra some
    have home := (custody.held key entry holder control (Nat.pos_of_ne_zero some)).2 owner owns
    rw [named] at home
    cases holder with
    | inl other =>
        have stopped := gone.1 other home
        simp [weight, stopped] at some
    | inr other =>
        have same : other = workerId := Option.some.inj home
        simp [weight, same, gone.2] at some
  refine ⟨look.1, fun summary listed => ?_⟩
  obtain ⟨low, owners⟩ := look.2 summary listed
  constructor
  · change summary.entry < served.store.delivered key (groupOf key)
    omega
  · intro unclaimed owner owned
    rw [still] at unclaimed
    have had := lets.owned summary.entry owner owned
    obtain ⟨owns, offline⟩ := owners unclaimed owner had
    refine ⟨owns, fun absent holder => ?_⟩
    have fewer := less (key, summary.entry) holder
    rw [noted] at absent
    rcases List.mem_cons.mp absent with isLapsed | known
    · have none := nobody holder summary.entry owner had (owns.trans isLapsed)
      omega
    · have none := offline known holder
      omega

omit [DecidableEq ι] in
theorem loop_of_isConsume {task : FleetTask} (consumes : task.isConsume = true) :
    ∃ runner rounds, task = .consume runner rounds := by
  cases task with
  | consume runner rounds => exact ⟨runner, rounds, rfl⟩
  | _ => cases consumes

theorem Custody.aside {mayFail : RedisCommand → Prop}
    (custody : Custody tasks groupOf past before)
    (grouped : ∀ key index runner, (tasks index).runner = some runner →
      runner.reads key → runner.groupName = groupOf key)
    (permitted : (deliveryWatch (tasks index)).allow (memoOf tasks past index) op)
    (found : before.task index = some (.call op resume))
    (answered : before.state.serve mayFail op reply served) (isAside : op.isBystander = true)
    (lapses : LapsesAreDeaths tasks before (.issue index op reply)) :
    Custody tasks groupOf (past ++ [.issue index op reply])
      (issued before index served (resume reply)) := by
  refine custody.quiet (serve_bystander answered isAside custody.lasting).1
    (fun key control => serve_lets answered isAside control _)
    (weight_aside found answered isAside) fun other key waiting control consumes shown => ?_
  by_cases equal : index = other
  · subst equal
    rw [memoOf_issue] at shown ⊢
    by_cases unlooked : op.isLook = false
    · right
      rw [note_unlooked _ isAside unlooked]
      refine ⟨rfl, rfl, fun entry unclaimed => ?_⟩
      rw [overtaken_aside isAside reply index (.inl ?_) key entry] at unclaimed
      · exact unclaimed
      · rintro looked name count rfl
        cases unlooked
    · cases op with
      | redis command =>
          cases command with
          | xpending looked name count =>
              cases reply with
              | error message =>
                  refine .inr ⟨rfl, rfl, fun entry unclaimed => ?_⟩
                  rw [overtaken_append] at unclaimed
                  exact unclaimed
              | ok seen =>
                  obtain ⟨runner, rounds, isLoop⟩ := loop_of_isConsume consumes
                  obtain ⟨reads, named⟩ := permitted runner rounds isLoop
                  rw [grouped looked index runner (by rw [isLoop]; rfl) reads] at named
                  subst named
                  obtain ⟨rfl, rfl⟩ := Prod.mk.inj (Option.some.inj shown)
                  exact .inl (look_of_xpending (custody.orderly looked control) answered)
          | get asked =>
              cases asked with
              | workerOnlineLease workerId =>
                  cases reply with
                  | error message =>
                      refine .inr ⟨rfl, rfl, fun entry unclaimed => ?_⟩
                      rw [overtaken_append] at unclaimed
                      exact unclaimed
                  | ok lease =>
                      cases online : leaseOnline lease with
                      | true =>
                          simp only [DeliveryMemo.note, online, if_true]
                          refine .inr ⟨trivial, trivial, fun entry unclaimed => ?_⟩
                          rw [overtaken_append] at unclaimed
                          exact unclaimed
                      | false =>
                          simp only [DeliveryMemo.note, online, Bool.false_eq_true, if_false]
                            at shown
                          have look := custody.looks index key waiting control consumes shown
                          have gone := lapses index workerId lease rfl consumes online
                          exact .inl (look_of_lease custody found answered gone control look
                            online)
              | _ => exact absurd rfl unlooked
          | _ => exact absurd rfl unlooked
      | _ => exact absurd rfl unlooked
  · right
    rw [memoOf_issue_other equal]
    refine ⟨rfl, rfl, fun entry unclaimed => ?_⟩
    rw [overtaken_aside isAside reply other (.inr equal) key entry] at unclaimed
    exact unclaimed

end Issue

section Exchange

variable {mayFail : RedisCommand → Prop} {index : ι} {served : Fleet} {runner : WorkerRunner}

omit [DecidableEq ι] in
theorem home_of_runner {task : FleetTask} (runs : task.runner = some runner) :
    task.home = some runner.workerId := by
  cases task <;> cases runs <;> rfl

theorem serve_read {key : Key} {consumer : String} {count : Nat}
    {reply : Except String (List (Nat × Value))} (custody : Custody tasks groupOf past before)
    (answered : before.state.serve mayFail (.redis (.xreadgroup key (groupOf key) consumer count))
      reply served) : ∀ other, other.isControl = true →
    served.store.expiresAt other = none ∧ served.store.Orderly other (groupOf other) ∧
    before.state.store.delivered other (groupOf other) ≤
      served.store.delivered other (groupOf other) ∧
    ∀ entry owner, served.store.owned other (groupOf other) entry = some owner →
      before.state.store.owned other (groupOf other) entry = some owner ∨
        before.state.store.delivered other (groupOf other) ≤ entry ∧ owner.consumer = consumer := by
  refine Fleet.serve_store (fun store => ∀ other, other.isControl = true →
    store.expiresAt other = none ∧ store.Orderly other (groupOf other) ∧
    before.state.store.delivered other (groupOf other) ≤
      store.delivered other (groupOf other) ∧
    ∀ entry owner, store.owned other (groupOf other) entry = some owner →
      before.state.store.owned other (groupOf other) entry = some owner ∨
        before.state.store.delivered other (groupOf other) ≤ entry ∧ owner.consumer = consumer)
    answered (fun other isControl => ?_) fun other isControl => ?_
  · exact ⟨custody.lasting other isControl, custody.orderly other isControl, Nat.le_refl _,
      fun _ _ owns => .inl owns⟩
  · obtain ⟨orderly, owned⟩ := Redis.Store.owned_xreadgroup before.state.store key other
      (groupOf key) consumer (groupOf other) count (custody.orderly other isControl)
    refine ⟨?_, orderly, Redis.Store.delivered_xreadgroup_le _ _ _ _ _ _ _, ?_⟩
    · rw [Redis.Store.expiresAt_exec before.state.store rfl isControl]
      exact custody.lasting other isControl
    · intro entry owner owns
      rcases owned entry owner owns with same | ⟨low, _, _, named⟩
      · exact .inl same
      · exact .inr ⟨low, named⟩

omit [DecidableEq ι] in
theorem read_brings {key : Key} {consumer : String} {count : Nat}
    {reply : Except String (List (Nat × Value))}
    (answered : before.state.serve mayFail (.redis (.xreadgroup key (groupOf key) consumer count))
      reply served) (memo : DeliveryMemo) (place : Key × Nat) :
    (memo.note (.redis (.xreadgroup key (groupOf key) consumer count)) reply).credit place ≤
        memo.credit place ∨
      (place.1 = key ∧ before.state.store.delivered key (groupOf key) ≤ place.2 ∧
        place.2 < served.store.delivered key (groupOf key)) ∧
      (memo.note (.redis (.xreadgroup key (groupOf key) consumer count)) reply).credit place ≤
        memo.credit place + 1 := by
  cases reply with
  | error message => exact .inl (Nat.le_refl _)
  | ok entries =>
      have done := Fleet.serve_ok answered
      have handed := Redis.Store.delivered_xreadgroup before.state.store key
        (groupOf key) consumer count (congrArg Prod.fst done)
      rw [done] at handed
      have counted := count_handed key place.1 place.2 handed.1
      have noted : (memo.note (.redis (.xreadgroup key (groupOf key) consumer count))
          (.ok entries)).credit place = memo.credit place +
            (entries.map fun entry => (key, entry.1)).count (place.1, place.2) := rfl
      rw [noted, counted]
      split
      · rename_i inside
        obtain ⟨here, low, high⟩ := inside
        have grown := handed.2
        dsimp only at grown
        exact .inr ⟨⟨here.symm, low, by omega⟩, Nat.le_refl _⟩
      · exact .inl (Nat.le_refl _)

theorem Custody.read {key : Key} {consumer : String} {count : Nat}
    {reply : Except String (List (Nat × Value))}
    {resume : Except String (List (Nat × Value)) → Prog effects Unit}
    (custody : Custody tasks groupOf past before) (control : key.isControl = true)
    (home : (tasks index).home = some consumer)
    (found : before.task index = some (@Prog.call effects Unit
      (.redis (.xreadgroup key (groupOf key) consumer count)) resume))
    (answered : before.state.serve mayFail (.redis (.xreadgroup key (groupOf key) consumer count))
      reply served) :
    Custody tasks groupOf
      (past ++ [.issue index (.redis (.xreadgroup key (groupOf key) consumer count)) reply])
      (issued before index served (resume reply)) := by
  have facts := serve_read custody answered
  have nobody {place : Key} (isControl : place.isControl = true) {entry : Nat}
      (fresh : before.state.store.delivered place (groupOf place) ≤ entry)
      (holder : ι ⊕ String) : weight tasks past before (place, entry) holder = 0 := by
    by_contra some
    have low := (custody.held place entry holder isControl (Nat.pos_of_ne_zero some)).1
    omega
  have weights := @weight_gains ι _ tasks past before index
    (.redis (.xreadgroup key (groupOf key) consumer count)) reply resume served mayFail _ found
    answered (by rintro _ _ _ _ ⟨⟩) (read_brings answered (memoOf tasks past index))
  refine custody.gains (fun other isControl => (facts other isControl).1)
    (fun other isControl => (facts other isControl).2.1)
    (fun other isControl => (facts other isControl).2.2.1) weights ?_ ?_ ?_
  · rintro place entry ⟨same, low, high⟩
    dsimp only at same low high
    subst same
    refine ⟨nobody control low, high, fun owner owns => ?_⟩
    rcases (facts place control).2.2.2 entry owner owns with earlier | ⟨_, named⟩
    · have early := (custody.orderly place control).lt earlier
      omega
    · rw [named]
      exact home
  · intro place entry owner isControl owns
    rcases (facts place isControl).2.2.2 entry owner owns with same | ⟨low, _⟩
    · exact .inl same
    · exact .inr (nobody isControl low)
  · intro other place waiting isControl shown
    have memos : (memoOf tasks (past ++ [.issue index
          (.redis (.xreadgroup key (groupOf key) consumer count)) reply]) other).pending =
        (memoOf tasks past other).pending ∧
        (memoOf tasks (past ++ [.issue index
          (.redis (.xreadgroup key (groupOf key) consumer count)) reply]) other).offline =
        (memoOf tasks past other).offline := by
      by_cases equal : index = other
      · subst equal
        rw [memoOf_issue]
        cases reply <;> exact ⟨rfl, rfl⟩
      · rw [memoOf_issue_other equal]
        exact ⟨rfl, rfl⟩
    refine ⟨memos.1 ▸ shown, memos.2, fun entry early unclaimed => ⟨?_, ?_, ?_⟩⟩
    · rw [overtaken_append] at unclaimed
      exact unclaimed
    · rintro ⟨same, low, _⟩
      dsimp only at same low
      subst same
      omega
    · intro owner owns
      rcases (facts place isControl).2.2.2 entry owner owns with same | ⟨low, _⟩
      · exact same
      · omega

omit [DecidableEq ι] in
theorem count_claimed (key place : Key) (entry : Nat) {taken : List (Nat × Value)}
    (distinct : (taken.map Prod.fst).Nodup) :
    (taken.map fun entry => (key, entry.1)).count (place, entry) =
      if key = place ∧ entry ∈ taken.map Prod.fst then 1 else 0 := by
  have split : (taken.map fun entry => (key, entry.1)) =
      (taken.map Prod.fst).map fun entry => (key, entry) := by
    rw [List.map_map]
    rfl
  rw [split]
  by_cases same : key = place
  · subst same
    rw [List.count_map_of_injective _ _ (fun _ _ equal => (Prod.mk.inj equal).2), distinct.count]
    simp only [true_and]
  · rw [if_neg (fun both => same both.1), List.count_eq_zero]
    intro listed
    obtain ⟨_, _, equal⟩ := List.mem_map.mp listed
    exact same (Prod.mk.inj equal).1

def touched (entries : List Nat) : Except String (List (Nat × Value)) → List Nat
  | .ok taken => taken.map Prod.fst
  | .error _ => entries

theorem serve_claim {key : Key} {consumer : String} {minIdle : Int} {entries : List Nat}
    {reply : Except String (List (Nat × Value))} (custody : Custody tasks groupOf past before)
    (answered : before.state.serve mayFail
      (.redis (.xclaim key (groupOf key) consumer minIdle entries)) reply served) :
    ∀ other, other.isControl = true → served.store.expiresAt other = none ∧
      served.store.Orderly other (groupOf other) ∧
      served.store.delivered other (groupOf other) =
        before.state.store.delivered other (groupOf other) ∧
      ∀ entry owner, served.store.owned other (groupOf other) entry = some owner →
        before.state.store.owned other (groupOf other) entry = some owner ∨
          other = key ∧ entry ∈ touched entries reply ∧
            (before.state.store.owned other (groupOf other) entry).isSome = true := by
  intro other isControl
  obtain ⟨orderly, same, owned⟩ := Redis.Store.owned_xclaim before.state.store key other
    (groupOf key) consumer (groupOf other) minIdle entries (custody.orderly other isControl)
  have keeps : (Redis.Command.xclaim key (groupOf key) consumer minIdle entries :
    RedisCommand).keeps Key.isControl = true := rfl
  have lasting := (Redis.Store.expiresAt_exec before.state.store keeps isControl).trans
    (custody.lasting other isControl)
  cases reply with
  | ok taken =>
      have done := Fleet.serve_ok answered
      rw [done] at orderly same owned lasting
      refine ⟨lasting, orderly, same, fun entry owner owns => ?_⟩
      rcases owned entry owner owns with kept | ⟨here, _, _, _, had, inside⟩
      · exact .inl kept
      · exact .inr ⟨here, inside taken rfl, had⟩
  | error message =>
      refine Fleet.serve_store (fun store => store.expiresAt other = none ∧
        store.Orderly other (groupOf other) ∧ store.delivered other (groupOf other) =
          before.state.store.delivered other (groupOf other) ∧
        ∀ entry owner, store.owned other (groupOf other) entry = some owner →
          before.state.store.owned other (groupOf other) entry = some owner ∨
            other = key ∧ entry ∈ entries ∧
              (before.state.store.owned other (groupOf other) entry).isSome = true)
        answered ?_ ?_
      · exact ⟨custody.lasting other isControl, custody.orderly other isControl, rfl,
          fun _ _ owns => .inl owns⟩
      · refine ⟨lasting, orderly, same, fun entry owner owns => ?_⟩
        rcases owned entry owner owns with kept | ⟨here, _, inside, _, had, _⟩
        · exact .inl kept
        · exact .inr ⟨here, inside, had⟩

omit [DecidableEq ι] in
theorem touched_asked {key : Key} {consumer : String} {minIdle : Int} {entries : List Nat}
    {reply : Except String (List (Nat × Value))}
    (answered : before.state.serve mayFail
      (.redis (.xclaim key (groupOf key) consumer minIdle entries)) reply served) :
    ∀ entry ∈ touched entries reply, entry ∈ entries := by
  intro entry inside
  cases reply with
  | ok taken => exact (Redis.Store.xclaim_taken (Fleet.serve_ok answered)).1.subset inside
  | error message => exact inside

omit [DecidableEq ι] in
theorem claim_brings {key : Key} {consumer : String} {minIdle : Int} {entries : List Nat}
    {reply : Except String (List (Nat × Value))}
    (answered : before.state.serve mayFail
      (.redis (.xclaim key (groupOf key) consumer minIdle entries)) reply served)
    (distinct : entries.Nodup) (memo : DeliveryMemo) (place : Key × Nat) :
    (memo.note (.redis (.xclaim key (groupOf key) consumer minIdle entries)) reply).credit place ≤
        memo.credit place ∨
      (place.1 = key ∧ ∃ taken, reply = .ok taken ∧ place.2 ∈ taken.map Prod.fst) ∧
      (memo.note (.redis (.xclaim key (groupOf key) consumer minIdle entries)) reply).credit
        place ≤ memo.credit place + 1 := by
  cases reply with
  | error message => exact .inl (Nat.le_refl _)
  | ok taken =>
      have ids := (Redis.Store.xclaim_taken (Fleet.serve_ok answered)).1
      have counted := count_claimed key place.1 place.2 (distinct.sublist ids)
      have noted : (memo.note (.redis (.xclaim key (groupOf key) consumer minIdle entries))
          (.ok taken)).credit place = memo.credit place +
            (taken.map fun entry => (key, entry.1)).count (place.1, place.2) := rfl
      rw [noted, counted]
      split
      · rename_i inside
        exact .inr ⟨⟨inside.1.symm, taken, rfl, inside.2⟩, Nat.le_refl _⟩
      · exact .inl (Nat.le_refl _)

theorem Custody.claim {key : Key} {consumer : String} {minIdle : Int} {entries : List Nat}
    {reply : Except String (List (Nat × Value))}
    {resume : Except String (List (Nat × Value)) → Prog effects Unit}
    (custody : Custody tasks groupOf past before) (control : key.isControl = true)
    (consumes : (tasks index).isConsume = true) (home : (tasks index).home = some consumer)
    (orphaned : (memoOf tasks past index).Orphaned key consumer entries)
    (fresh : ClaimsFresh past
      (.issue index (.redis (.xclaim key (groupOf key) consumer minIdle entries)) reply))
    (found : before.task index = some (@Prog.call effects Unit
      (.redis (.xclaim key (groupOf key) consumer minIdle entries)) resume))
    (answered : before.state.serve mayFail
      (.redis (.xclaim key (groupOf key) consumer minIdle entries)) reply served) :
    Custody tasks groupOf
      (past ++ [.issue index (.redis (.xclaim key (groupOf key) consumer minIdle entries)) reply])
      (issued before index served (resume reply)) := by
  obtain ⟨_, waiting, shown, listed, lapsed⟩ := orphaned
  obtain ⟨distinct, look⟩ := custody.looks index key waiting control consumes shown
  have facts := serve_claim custody answered
  have latest : ∀ entry ∈ touched entries reply, overtaken index key entry past = false := by
    intro entry inside
    cases reply <;> exact fresh index key (groupOf key) consumer minIdle entries _ rfl entry inside
  -- the look found the owner offline, and no other task asked for the entry since
  have nobody (entry : Nat) (inside : entry ∈ touched entries reply)
      (had : (before.state.store.owned key (groupOf key) entry).isSome = true)
      (holder : ι ⊕ String) : weight tasks past before (key, entry) holder = 0 := by
    obtain ⟨owner, owns⟩ := Option.isSome_iff_exists.mp had
    obtain ⟨summary, seen, rfl, _, offline⟩ := lapsed entry (touched_asked answered entry inside)
    exact ((look summary seen).2 (latest _ inside) owner owns).2 offline holder
  have weights := @weight_gains ι _ tasks past before index
    (.redis (.xclaim key (groupOf key) consumer minIdle entries)) reply resume served mayFail _
    found answered (by rintro _ _ _ _ ⟨⟩)
    (claim_brings answered (distinct.sublist listed) (memoOf tasks past index))
  refine custody.gains (fun other isControl => (facts other isControl).1)
    (fun other isControl => (facts other isControl).2.1)
    (fun other isControl => (facts other isControl).2.2.1.ge) weights ?_ ?_ ?_
  · rintro place entry ⟨same, taken, rfl, inside⟩
    dsimp only at same inside
    subst same
    obtain ⟨had, owners⟩ := (Redis.Store.xclaim_taken (Fleet.serve_ok answered)).2 entry inside
    obtain ⟨owner, owns⟩ := Option.isSome_iff_exists.mp had
    have early := (custody.orderly place control).lt owns
    refine ⟨nobody entry inside had, ?_, fun owner owns => ?_⟩
    · rw [← (facts place control).2.2.1] at early
      exact early
    · rw [owners owner owns]
      exact home
  · intro place entry owner isControl owns
    rcases (facts place isControl).2.2.2 entry owner owns with kept | ⟨rfl, inside, had⟩
    · exact .inl kept
    · exact .inr (nobody entry inside had)
  · intro other place seen isControl shows
    by_cases equal : index = other
    · subst equal
      rw [memoOf_issue] at shows
      cases reply <;> cases shows
    · rw [memoOf_issue_other equal] at shows ⊢
      refine ⟨shows, rfl, fun entry _ unclaimed => ?_⟩
      rw [overtaken_append] at unclaimed
      simp only [overtakes, Bool.or_eq_false_iff, decide_eq_false_iff_not, not_and] at unclaimed
      have apart : key = place → entry ∉ entries := unclaimed.2 equal
      refine ⟨unclaimed.1, ?_, fun owner owns => ?_⟩
      · rintro ⟨same, taken, rfl, inside⟩
        exact apart same.symm (touched_asked answered entry inside)
      · rcases (facts place isControl).2.2.2 entry owner owns with kept | ⟨rfl, inside, _⟩
        · exact kept
        · exact absurd (touched_asked answered entry inside) (apart rfl)

theorem Custody.pass {workerId : String} {key : Key} {entry : Nat} {command : GatewayCommand}
    {resume : Unit → Prog effects Unit}
    (custody : Custody tasks groupOf past before) (home : (tasks index).home = some workerId)
    (has : 0 < (memoOf tasks past index).credit (key, entry))
    (found : before.task index = some (@Prog.call effects Unit
      (.process workerId (.handOver key entry command)) resume))
    (answered : before.state.serve mayFail (.process workerId (.handOver key entry command)) ()
      served) :
    Custody tasks groupOf
      (past ++ [.issue index (.process workerId (.handOver key entry command)) ()])
      (issued before index served (resume ())) := by
  obtain ⟨_, rfl⟩ := answered
  have running := @weight_running ι _ tasks past before index
    (.process workerId (.handOver key entry command)) resume found
  refine @Custody.moves ι _ tasks groupOf past before _ _ (.inl index) (.inr workerId)
    (key, entry) custody rfl (by simp) home.symm ?_ ?_ ?_ ?_ ?_ ?_
  · rw [running]
    omega
  · intro place
    have less := @weight_issued_le ι _ tasks past before index
      (.process workerId (.handOver key entry command)) ()
      (before.state.withProcess workerId ((before.state.process workerId).answer
        (.handOver key entry command)).2) place (resume ())
    rw [running]
    by_cases same : (key, entry) = place
    · subst same
      simp only [DeliveryMemo.note, DeliveryMemo.spend, Function.update_self, if_true] at less ⊢
      omega
    · simp only [DeliveryMemo.note, DeliveryMemo.spend, ne_eq, Ne.symm same, not_false_eq_true,
        Function.update_of_ne] at less
      rw [if_neg same, Nat.sub_zero]
      exact less
  · intro place
    simp only [weight, issued, Fleet.withProcess, Function.update_self, ProcessMemory.answer,
      List.map_append, List.map_cons, List.map_nil, List.count_append, List.count_singleton,
      StreamMessage.place, beq_iff_eq]
    exact Nat.le_refl _
  · intro place holder notGiver notTaker
    cases holder with
    | inl other =>
        exact @weight_issued_other ι _ tasks past before index
          (.process workerId (.handOver key entry command)) () _ other
          (fun equal => notGiver (by rw [equal])) place (resume ())
    | inr other =>
        have different : other ≠ workerId := fun equal => notTaker (by rw [equal])
        simp only [weight, issued, Fleet.withProcess, ne_eq, different, not_false_eq_true,
          Function.update_of_ne]
  · intro other
    left
    by_cases equal : index = other
    · subst equal
      rw [memoOf_issue]
      exact ⟨rfl, rfl⟩
    · rw [memoOf_issue_other equal]
      exact ⟨rfl, rfl⟩
  · intro other place asked unclaimed
    rw [overtaken_append] at unclaimed
    exact unclaimed

theorem Custody.obey {workerId : String} {key : Key} {entry : Nat}
    {resume : Unit → Prog effects Unit} (custody : Custody tasks groupOf past before)
    (found : before.task index = some (@Prog.call effects Unit
      (.process workerId (.reach (.controlMessage key entry))) resume))
    (answered : before.state.serve mayFail
      (.process workerId (.reach (.controlMessage key entry))) () served) :
    Custody tasks groupOf
      (past ++ [.issue index (.process workerId (.reach (.controlMessage key entry))) ()])
      (issued before index served (resume ())) := by
  have kept := serve_handed answered (by rintro _ _ _ _ ⟨⟩)
  have same := Fleet.serve_other answered (by rintro command ⟨⟩)
  refine custody.quiet ?_ ?_ ?_ ?_
  · intro other control
    change served.store.expiresAt other = none
    rw [same]
    exact custody.lasting other control
  · intro other control
    exact Redis.Store.lets_of_group (by simp only [issued, same])
  · intro place holder
    cases holder with
    | inl other =>
        by_cases equal : index = other
        · subst equal
          have less := @weight_issued_le ι _ tasks past before index
            (.process workerId (.reach (.controlMessage key entry))) () served place (resume ())
          rw [@weight_running ι _ tasks past before index
            (.process workerId (.reach (.controlMessage key entry))) resume found]
          have covers : ((memoOf tasks past index).spend (key, entry)).credit place ≤
              (memoOf tasks past index).credit place := by
            by_cases here : place = (key, entry)
            · subst here
              simp only [DeliveryMemo.spend, Function.update_self]
              omega
            · simp only [DeliveryMemo.spend, ne_eq, here, not_false_eq_true,
                Function.update_of_ne]
              exact Nat.le_refl _
          simp only [DeliveryMemo.note] at less
          omega
        · exact Nat.le_of_eq (weight_issued_other equal place _)
    | inr other =>
        simp only [weight, issued, kept]
        exact Nat.le_refl _
  · intro other place waiting control consumes shown
    right
    by_cases equal : index = other
    · subst equal
      rw [memoOf_issue]
      refine ⟨rfl, rfl, fun asked unclaimed => ?_⟩
      rw [overtaken_append] at unclaimed
      exact unclaimed
    · rw [memoOf_issue_other equal]
      refine ⟨rfl, rfl, fun asked unclaimed => ?_⟩
      rw [overtaken_append] at unclaimed
      exact unclaimed

end Exchange

end Fleet

end ByFramework
