import ByFramework.ConsumeLoop

/-!
Where the workers that read one stream agree on their group and stay alive, no command is
handed to its processing twice.
-/

namespace ByFramework

open Async

section Fleet

variable {ι : Type} [DecidableEq ι]

def passed (streamName : Key) (msgId : Nat) (events : List (Event effects ι)) : Nat :=
  events.countP (handsOver streamName msgId)

omit [DecidableEq ι] in
theorem passed_append (streamName : Key) (msgId : Nat) (past : List (Event effects ι))
    (event : Event effects ι) : passed streamName msgId (past ++ [event]) =
      passed streamName msgId past + if handsOver streamName msgId event then 1 else 0 := by
  simp [passed, List.countP_append, List.countP_cons]

/-- Every lease that a consume loop looks up is that of a worker online. -/
def LeasesHold (tasks : ι → FleetTask) (_ : List (Event effects ι)) (event : Event effects ι) :
    Prop :=
  ∀ index workerId lease,
    event = .issue index (.redis (.get (.workerOnlineLease workerId))) (.ok lease) →
      (tasks index).isConsume = true → leaseOnline lease = true

def memoOf (tasks : ι → FleetTask) (past : List (Event effects ι)) (index : ι) : DeliveryMemo :=
  (deliveryWatch (tasks index)).memo index past

omit [DecidableEq ι] in
theorem GroupsAgree.group {tasks : ι → FleetTask} (agree : GroupsAgree tasks) :
    ∃ groupOf : Key → String, ∀ key index runner, (tasks index).runner = some runner →
      runner.reads key → runner.groupName = groupOf key := by
  have each (key : Key) : ∃ name, ∀ index runner, (tasks index).runner = some runner →
      runner.reads key → runner.groupName = name := by
    by_cases read : ∃ index runner, (tasks index).runner = some runner ∧ runner.reads key
    · obtain ⟨first, reader, runs, reads⟩ := read
      exact ⟨reader.groupName, fun index runner theirs reading =>
        agree index first runner reader key theirs runs reading reads⟩
    · exact ⟨"", fun index runner runs reads => absurd ⟨index, runner, runs, reads⟩ read⟩
  choose groupOf grouped using each
  exact ⟨groupOf, grouped⟩

theorem control_of_reads {runner : WorkerRunner} {key : Key} (reads : runner.reads key) :
    key.isControl = true := by
  cases key with
  | ctrlStream agentType => rfl
  | workerCtrlStream workerId => rfl
  | _ => exact reads.elim

/-- What is still to be passed on, and what was, of the entries each stream has handed out. -/
structure DeliveredOnce (tasks : ι → FleetTask) (groupOf : Key → String)
    (past : List (Event effects ι)) (store : RedisStore) : Prop where
  lasting : ∀ key, key.isControl = true → store.expiresAt key = none
  noneOffline : ∀ index, (tasks index).isConsume = true → (memoOf tasks past index).offline = []
  once : ∀ key msgId index, key.isControl = true →
    (memoOf tasks past index).credit (key, msgId) + passed key msgId past ≤
      if msgId < store.delivered key (groupOf key) then 1 else 0
  sole : ∀ key msgId index other, index ≠ other →
    (memoOf tasks past index).credit (key, msgId) = 0 ∨
      (memoOf tasks past other).credit (key, msgId) = 0

section Steps

variable {tasks : ι → FleetTask} {groupOf : Key → String} {past : List (Event effects ι)}
  {store after : RedisStore}

theorem memoOf_issue (index : ι) (op : Op) (reply : op.Reply) :
    memoOf tasks (past ++ [.issue index op reply]) index = (memoOf tasks past index).note op reply :=
  Watch.memo_issue _ _ _ _ _

theorem memoOf_issue_other {index other : ι} (different : index ≠ other) (op : Op)
    (reply : op.Reply) :
    memoOf tasks (past ++ [.issue index op reply]) other = memoOf tasks past other :=
  Watch.memo_issue_other _ _ _ _ different

omit [DecidableEq ι] in
theorem note_offline {memo : DeliveryMemo} {index : ι} {op : Op} {reply : op.Reply}
    (consumes : (tasks index).isConsume = true)
    (current : LeasesHold tasks past (.issue index op reply)) (none : memo.offline = []) :
    (memo.note op reply).offline = [] := by
  unfold DeliveryMemo.note
  split
  · exact none
  · exact none
  · exact none
  · rfl
  · rename_i workerId lease
    rw [if_pos (current index workerId lease rfl consumes)]
    exact none
  · exact none
  · exact none
  · exact none

theorem DeliveredOnce.offline {index : ι} {op : Op} {reply : op.Reply}
    (delivered : DeliveredOnce tasks groupOf past store)
    (current : LeasesHold tasks past (.issue index op reply)) (other : ι)
    (consumes : (tasks other).isConsume = true) :
    (memoOf tasks (past ++ [.issue index op reply]) other).offline = [] := by
  have before := delivered.noneOffline other consumes
  by_cases equal : index = other
  · subst equal
    rw [memoOf_issue]
    exact note_offline consumes current before
  · rw [memoOf_issue_other equal]
    exact before

theorem DeliveredOnce.aside {index : ι} {op : Op} {reply : op.Reply}
    (delivered : DeliveredOnce tasks groupOf past store) (isAside : op.isBystander = true)
    (current : LeasesHold tasks past (.issue index op reply))
    (lasting : ∀ key, key.isControl = true → after.expiresAt key = none)
    (same : ∀ key, key.isControl = true →
      after.delivered key (groupOf key) = store.delivered key (groupOf key)) :
    DeliveredOnce tasks groupOf (past ++ [.issue index op reply]) after := by
  have credits (other : ι) : (memoOf tasks (past ++ [.issue index op reply]) other).credit =
      (memoOf tasks past other).credit := by
    by_cases equal : index = other
    · subst equal
      rw [memoOf_issue]
      exact note_bystander _ isAside reply
    · rw [memoOf_issue_other equal]
  have unpassed (key : Key) (msgId : Nat) :
      passed key msgId (past ++ [.issue index op reply]) = passed key msgId past := by
    rw [passed_append]
    cases op with
    | process workerId request =>
        cases request with
        | handOver streamName entry command => cases isAside
        | reach moment => cases moment <;> first | rfl | cases isAside
        | _ => rfl
    | _ => rfl
  refine ⟨lasting, delivered.offline current, fun key msgId other control => ?_,
    fun key msgId first second different => ?_⟩
  · rw [credits, unpassed, same key control]
    exact delivered.once key msgId other control
  · rw [credits, credits]
    exact delivered.sole key msgId first second different

theorem count_handed (key place : Key) (msgId : Nat) {first : Nat} {entries : List (Nat × Value)}
    (ids : entries.map Prod.fst = List.range' first entries.length) :
    (entries.map fun entry => (key, entry.1)).count (place, msgId) =
      if key = place ∧ first ≤ msgId ∧ msgId < first + entries.length then 1 else 0 := by
  have split : (entries.map fun entry => (key, entry.1)) =
      (List.range' first entries.length).map fun entry => (key, entry) := by
    rw [← ids, List.map_map]
    rfl
  rw [split]
  by_cases same : key = place
  · subst same
    rw [List.count_map_of_injective _ _ (fun _ _ equal => (Prod.mk.inj equal).2)]
    have distinct : (List.range' first entries.length).Nodup := List.nodup_range'
    rw [distinct.count]
    simp [List.mem_range'_1]
  · rw [if_neg (fun both => same both.1), List.count_eq_zero]
    intro listed
    obtain ⟨entry, _, equal⟩ := List.mem_map.mp listed
    exact same (Prod.mk.inj equal).1

/-- A task is handed at most what no task of its group was handed before. -/
theorem DeliveredOnce.hands {index : ι} {op : Op} {reply : op.Reply}
    (delivered : DeliveredOnce tasks groupOf past store)
    (current : LeasesHold tasks past (.issue index op reply))
    (lasting : ∀ key, key.isControl = true → after.expiresAt key = none)
    (grows : ∀ other, store.delivered other (groupOf other) ≤ after.delivered other (groupOf other))
    (unpassed : ∀ place msgId,
      passed place msgId (past ++ [.issue index op reply]) = passed place msgId past)
    (added : ∀ place msgId,
      ((memoOf tasks past index).note op reply).credit (place, msgId) =
        (memoOf tasks past index).credit (place, msgId) ∨
      ((memoOf tasks past index).note op reply).credit (place, msgId) =
          (memoOf tasks past index).credit (place, msgId) + 1 ∧
        place.isControl = true ∧ store.delivered place (groupOf place) ≤ msgId ∧
        msgId < after.delivered place (groupOf place)) :
    DeliveredOnce tasks groupOf (past ++ [.issue index op reply]) after := by
  have fresh {place : Key} {msgId : Nat} (isControl : place.isControl = true)
      (undelivered : store.delivered place (groupOf place) ≤ msgId) (other : ι) :
      (memoOf tasks past other).credit (place, msgId) + passed place msgId past = 0 := by
    have bound := delivered.once place msgId other isControl
    rw [if_neg (by omega)] at bound
    omega
  refine ⟨lasting, delivered.offline current, fun place msgId other isControl => ?_,
    fun place msgId first second different => ?_⟩
  · have bound := delivered.once place msgId other isControl
    have wider := grows place
    rw [unpassed]
    by_cases equal : index = other
    · subst equal
      rw [memoOf_issue]
      rcases added place msgId with same | ⟨more, _, low, high⟩
      · rw [same]
        split at bound <;> split <;> omega
      · have nobody := fresh isControl low index
        rw [more, if_pos high]
        omega
    · rw [memoOf_issue_other equal]
      split at bound <;> split <;> omega
  · have before := delivered.sole place msgId first second different
    by_cases isFirst : index = first
    · subst isFirst
      rw [memoOf_issue, memoOf_issue_other different]
      rcases added place msgId with same | ⟨_, isControl, low, _⟩
      · rw [same]
        exact before
      · have nobody := fresh isControl low second
        exact .inr (by omega)
    · by_cases isSecond : index = second
      · subst isSecond
        rw [memoOf_issue_other isFirst, memoOf_issue]
        rcases added place msgId with same | ⟨_, isControl, low, _⟩
        · rw [same]
          exact before
        · have nobody := fresh isControl low first
          exact .inl (by omega)
      · rw [memoOf_issue_other isFirst, memoOf_issue_other isSecond]
        exact before

theorem DeliveredOnce.read {mayFail : RedisCommand → Prop} {index : ι} {fleet last : Fleet}
    {key : Key} {consumer : String} {count : Nat} {reply : Except String (List (Nat × Value))}
    (delivered : DeliveredOnce tasks groupOf past fleet.store) (control : key.isControl = true)
    (current : LeasesHold tasks past
      (.issue index (.redis (.xreadgroup key (groupOf key) consumer count)) reply))
    (served : fleet.serve mayFail (.redis (.xreadgroup key (groupOf key) consumer count)) reply
      last) :
    DeliveredOnce tasks groupOf
      (past ++ [.issue index (.redis (.xreadgroup key (groupOf key) consumer count)) reply])
      last.store := by
  refine delivered.hands current ?_ ?_ ?_ ?_
  · intro other lasting
    refine Fleet.serve_store (fun store => store.expiresAt other = none) served
      (delivered.lasting other lasting) ?_
    rw [Redis.Store.expiresAt_exec fleet.store rfl lasting]
    exact delivered.lasting other lasting
  · intro other
    refine Fleet.serve_store (fun store => fleet.store.delivered other (groupOf other) ≤
      store.delivered other (groupOf other)) served (Nat.le_refl _) ?_
    exact Redis.Store.delivered_xreadgroup_le _ _ _ _ _ _ _
  · intro place msgId
    rw [passed_append]
    rfl
  · intro place msgId
    cases reply with
    | error message => exact .inl rfl
    | ok entries =>
        have done := Fleet.serve_ok served
        have spec := Redis.Store.delivered_xreadgroup fleet.store key (groupOf key) consumer count
          (congrArg Prod.fst done)
        rw [done] at spec
        obtain ⟨ids, grown⟩ := spec
        have counted := count_handed key place msgId ids
        change _ + _ = _ ∨ _ + _ = _ ∧ _
        rw [counted]
        split
        · rename_i inside
          obtain ⟨rfl, low, high⟩ := inside
          have reached : msgId < last.store.delivered key (groupOf key) := grown ▸ high
          exact .inr ⟨rfl, control, low, reached⟩
        · exact .inl rfl

theorem DeliveredOnce.pass {index : ι} {op : Op} {reply : op.Reply} {key : Key} {entry : Nat}
    (delivered : DeliveredOnce tasks groupOf past store)
    (current : LeasesHold tasks past (.issue index op reply))
    (passes : ∀ place msgId, handsOver place msgId (.issue index op reply : Event effects ι) =
      (decide (key = place) && decide (entry = msgId)))
    (spends : (memoOf tasks past index).note op reply = (memoOf tasks past index).spend (key, entry))
    (has : 0 < (memoOf tasks past index).credit (key, entry)) :
    DeliveredOnce tasks groupOf (past ++ [.issue index op reply]) store := by
  have own (place : Key) (msgId : Nat) :
      (memoOf tasks (past ++ [.issue index op reply]) index).credit (place, msgId) =
        (memoOf tasks past index).credit (place, msgId) -
          if (place, msgId) = (key, entry) then 1 else 0 := by
    rw [memoOf_issue, spends]
    by_cases same : (place, msgId) = (key, entry)
    · rw [same]
      simp [DeliveryMemo.spend]
    · simp [DeliveryMemo.spend, same]
  refine ⟨delivered.lasting, delivered.offline current, fun place msgId other isControl => ?_,
    fun place msgId first second different => ?_⟩
  · have bound := delivered.once place msgId other isControl
    rw [passed_append, passes]
    by_cases same : (place, msgId) = (key, entry)
    · cases same
      by_cases equal : index = other
      · subst equal
        rw [own]
        simp only [if_true, decide_true, Bool.and_self]
        omega
      · have alone := delivered.sole key entry index other equal
        have holds := delivered.once key entry index isControl
        rw [memoOf_issue_other equal]
        simp only [decide_true, Bool.and_self, if_true]
        omega
    · have unpassed : (decide (key = place) && decide (entry = msgId)) = false := by
        simp only [Prod.mk.injEq, not_and] at same
        simp only [Bool.and_eq_false_imp, decide_eq_true_eq, decide_eq_false_iff_not]
        exact fun keys entries => same keys.symm entries.symm
      rw [unpassed]
      by_cases equal : index = other
      · subst equal
        rw [own, if_neg same]
        simpa using bound
      · rw [memoOf_issue_other equal]
        simpa using bound
  · have before := delivered.sole place msgId first second different
    have shrinks (other : ι) :
        (memoOf tasks (past ++ [.issue index op reply]) other).credit (place, msgId) ≤
          (memoOf tasks past other).credit (place, msgId) := by
      by_cases equal : index = other
      · subst equal
        rw [own]
        omega
      · rw [memoOf_issue_other equal]
    have left := shrinks first
    have right := shrinks second
    omega

theorem DeliveredOnce.starts (delivered : DeliveredOnce tasks groupOf past store) (index : ι) :
    DeliveredOnce tasks groupOf (past ++ [.start index]) store := by
  have memos (other : ι) : memoOf tasks (past ++ [.start index]) other = memoOf tasks past other ∨
      memoOf tasks (past ++ [.start index]) other = {} := by
    by_cases equal : index = other
    · subst equal
      exact .inr (Watch.memo_start _ _ _)
    · exact .inl (Watch.memo_start_other _ _ equal)
  have fewer (other : ι) (place : Key × Nat) :
      (memoOf tasks (past ++ [.start index]) other).credit place ≤
        (memoOf tasks past other).credit place := by
    rcases memos other with same | reset
    · rw [same]
    · rw [reset]
      exact Nat.zero_le _
  refine ⟨delivered.lasting, fun other consumes => ?_, fun key msgId other control => ?_,
    fun key msgId first second different => ?_⟩
  · rcases memos other with same | reset
    · rw [same]
      exact delivered.noneOffline other consumes
    · rw [reset]
  · have bound := delivered.once key msgId other control
    have less := fewer other (key, msgId)
    rw [passed_append]
    change _ + (_ + 0) ≤ _
    omega
  · have before := delivered.sole key msgId first second different
    have left := fewer first (key, msgId)
    have right := fewer second (key, msgId)
    omega

theorem DeliveredOnce.between {event : Event effects ι}
    (delivered : DeliveredOnce tasks groupOf past store)
    (memos : ∀ other, memoOf tasks (past ++ [event]) other = memoOf tasks past other)
    (unpassed : ∀ key msgId, handsOver key msgId event = false)
    (lasting : ∀ key, key.isControl = true → after.expiresAt key = none)
    (same : ∀ key, key.isControl = true →
      after.delivered key (groupOf key) = store.delivered key (groupOf key)) :
    DeliveredOnce tasks groupOf (past ++ [event]) after := by
  refine ⟨lasting, fun other consumes => ?_, fun key msgId other control => ?_,
    fun key msgId first second different => ?_⟩
  · rw [memos]
    exact delivered.noneOffline other consumes
  · rw [memos, passed_append, unpassed, same key control]
    exact delivered.once key msgId other control
  · rw [memos, memos]
    exact delivered.sole key msgId first second different

omit [DecidableEq ι] in
theorem begins_store {fleet begun : Fleet} {task : FleetTask} (begins : task.Begins fleet begun) :
    begun.store = fleet.store := by
  cases begins <;> rfl

theorem serve_bystander {mayFail : RedisCommand → Prop} {fleet served : Fleet} {op : Op}
    {reply : op.Reply} (answered : fleet.serve mayFail op reply served)
    (isAside : op.isBystander = true)
    (lasting : ∀ key, key.isControl = true → fleet.store.expiresAt key = none) :
    (∀ key, key.isControl = true → served.store.expiresAt key = none) ∧
      ∀ key name, key.isControl = true →
        served.store.delivered key name = fleet.store.delivered key name := by
  cases op with
  | redis command =>
      have keeps : command.keeps Key.isControl = true := by
        cases command <;> first | exact isAside | rfl
      have unread : ∀ read name consumer count,
          command ≠ .xreadgroup read name consumer count := by
        rintro read name consumer count rfl
        cases isAside
      refine Fleet.serve_store (fun store =>
        (∀ key, key.isControl = true → store.expiresAt key = none) ∧ ∀ key name,
          key.isControl = true → store.delivered key name = fleet.store.delivered key name)
        answered ⟨lasting, fun _ _ _ => rfl⟩ ⟨fun key control => ?_, fun key name control => ?_⟩
      · rw [Redis.Store.expiresAt_exec fleet.store keeps control]
        exact lasting key control
      · exact Redis.Store.delivered_exec fleet.store unread keeps control name
  | _ =>
      rw [Fleet.serve_other answered (by rintro command ⟨⟩)]
      exact ⟨lasting, fun _ _ _ => rfl⟩

theorem DeliveredOnce.step {mayFail : RedisCommand → Prop}
    (grouped : ∀ key index runner, (tasks index).runner = some runner →
      runner.reads key → runner.groupName = groupOf key)
    {before last : Config effects Fleet ι Unit} {event : Event effects ι}
    (delivered : DeliveredOnce tasks groupOf past before.state.store)
    (allowed : ∀ index op reply, event = .issue index op reply →
      (deliveryWatch (tasks index)).allow (memoOf tasks past index) op)
    (current : LeasesHold tasks past event)
    (taken : Step (fleetWorld mayFail tasks) before event last) :
    DeliveredOnce tasks groupOf (past ++ [event]) last.state.store := by
  cases taken with
  | @start index program after free started =>
      exact begins_store started.2 ▸ delivered.starts index
  | @stop index program after found stopped =>
      obtain rfl := stopped
      exact delivered.between (fun _ => Watch.memo_stop _ _ _ _) (fun _ _ => rfl)
        delivered.lasting fun _ _ => rfl
  | @lapse after lapsed =>
      refine delivered.between (fun _ => Watch.memo_lapse _ _ _) (fun _ _ => rfl) ?_ ?_
      · intro key control
        cases lapsed with
        | time now later => exact (Redis.Store.stream_advance _ now (delivered.lasting key control)).2
        | restart workerId => exact delivered.lasting key control
      · intro key control
        cases lapsed with
        | time now later =>
            have kept := (Redis.Store.stream_advance _ now (delivered.lasting key control)).1
            simp only [Redis.Store.delivered, Redis.Store.group, kept]
        | restart workerId => rfl
  | @issue index op resume reply after found served =>
      have permitted := allowed index op reply rfl
      by_cases isAside : op.isBystander = true
      · obtain ⟨lasting, same⟩ := serve_bystander served isAside delivered.lasting
        exact delivered.aside isAside current lasting fun key control => same key _ control
      · cases op with
        | redis command =>
            cases command with
            | xreadgroup key name consumer count =>
                obtain ⟨runner, runs, reads, named, _⟩ := permitted
                obtain rfl : name = groupOf key := named.trans (grouped key index runner runs reads)
                have answered : before.state.serve mayFail
                    (.redis (.xreadgroup key (groupOf key) consumer count)) reply after := served
                exact delivered.read (control_of_reads reads) current answered
            | xclaim key name consumer minIdle entries =>
                obtain ⟨runner, rounds, consumes, _, _, _, _, some, waiting, _, _, orphaned⟩ := permitted
                obtain ⟨entry, listed⟩ := List.exists_mem_of_ne_nil entries some
                obtain ⟨summary, _, _, _, offline⟩ := orphaned entry listed
                have none := delivered.noneOffline index (by rw [consumes]; rfl)
                rw [none] at offline
                cases offline
            | xpending key name count => exact absurd rfl isAside
            | _ => exact absurd permitted isAside
        | process workerId request =>
            have answered : before.state.serve mayFail (.process workerId request) reply after :=
              served
            have same := Fleet.serve_other answered (by rintro command ⟨⟩)
            change DeliveredOnce tasks groupOf _ after.store
            rw [same]
            cases request with
            | handOver key entry command =>
                exact delivered.pass current (fun _ _ => rfl) rfl permitted.1
            | reach moment =>
                cases moment with
                | controlMessage key entry =>
                    exact delivered.pass current (fun _ _ => rfl) rfl permitted
                | _ => exact absurd permitted isAside
            | _ => exact absurd permitted isAside
        | _ => exact absurd permitted isAside

end Steps

theorem one_delivery (tasks : ι → FleetTask) (mayFail : RedisCommand → Prop)
    (agree : GroupsAgree tasks) {first last : Config effects Fleet ι Unit}
    {events : List (Event effects ι)} (idle : ∀ index, first.task index = none)
    (lasting : ∀ key, key.isControl = true → first.state.store.expiresAt key = none)
    (runs : Runs (fleetWorld mayFail tasks) (fun _ _ => True) first events last)
    (leases : Meets (LeasesHold tasks) events) (key : Key) (msgId : Nat)
    (control : key.isControl = true) : passed key msgId events ≤ 1 := by
  obtain ⟨groupOf, grouped⟩ := agree.group
  suffices held : Watched (fun index => deliveryWatch (tasks index)) (fun _ _ _ => True)
      events last ∧ DeliveredOnce tasks groupOf events last.state.store by
    have delivered := held.2
    by_cases some : Nonempty ι
    · obtain ⟨index⟩ := some
      have bound := delivered.once key msgId index control
      split at bound <;> omega
    · have none : passed key msgId events = 0 := by
        refine List.countP_eq_zero.mpr fun event _ => ?_
        cases event with
        | issue index op reply => exact absurd ⟨index⟩ some
        | _ => simp [handsOver]
      omega
  refine Runs.watched
    (fun past config => DeliveredOnce tasks groupOf past config.state.store)
    runs leases idle ?_ ?_ ?_ ?_
  · refine ⟨lasting, fun _ _ => rfl, fun place entry index _ => ?_, fun _ _ _ _ _ => .inl rfl⟩
    exact Nat.zero_le _
  · rintro state index program after ⟨rfl, _⟩
    exact program_watched (tasks index)
  · exact fun _ _ _ _ _ _ _ _ _ _ _ => trivial
  · intro past before event after watched holding _ current taken _
    refine DeliveredOnce.step grouped holding ?_ current taken
    rintro index op reply rfl
    exact watched.allows taken

end Fleet

/-! ### A mixed fleet -/

section Mixed

def promptWorker (workerId : String) : GatewayWorker :=
  ⟨workerId, false, fun _ _ => .returns (.json (.string AgentState.completed))⟩

def emptyFleet : Fleet := ⟨Redis.Store.empty, fun _ => {}⟩

def greeting : GatewayCommand := .askAgent
  { header := { messageId := "msg-1", sessionId := "session", traceId := "trace", targetAgentType := "a" }
    content := .string "hello"
    nonEmpty := by decide }

def sendGreeting : Prog effects Unit :=
  toEnd (do let _ ← redis (.xadd (.ctrlStream "a") (.command greeting))) ()

def greetingEntry : StreamMessage := ⟨.ctrlStream "a", 0, greeting⟩

theorem sendGreeting_bystander : sendGreeting.Uses bystander := by
  refine ⟨rfl, fun reply _ => ?_⟩
  cases reply <;> trivial

/-- Two workers start, a client sends a command, and each worker does what it finds to do. -/
def fleetPair (left right : WorkerRunner) : Fin 7 → FleetTask
  | 0 => .setup left
  | 1 => .setup right
  | 2 => .other sendGreeting sendGreeting_bystander
  | 3 => .consume left 1
  | 4 => .consume right 1
  | 5 => .message (promptWorker left.workerId) left.groupName greetingEntry
  | 6 => .message (promptWorker right.workerId) right.groupName greetingEntry

def fleetPairMoves : List (Move (Fin 7) Int) :=
  (List.finRange 7).flatMap fun index => .start index :: List.replicate 60 (.go index)

def fleetPairRun (left right : WorkerRunner) :
    List (Event effects (Fin 7)) × Config effects Fleet (Fin 7) Unit :=
  (fleetPlayer (fleetPair left right)).play ⟨emptyFleet, fun _ => none⟩ fleetPairMoves

theorem fleetPairRun_runs (mayFail : RedisCommand → Prop) (left right : WorkerRunner) :
    Runs (fleetWorld mayFail (fleetPair left right)) (fun _ _ => True)
      ⟨emptyFleet, fun _ => none⟩ (fleetPairRun left right).1 (fleetPairRun left right).2 :=
  (fleetPlayer_plays mayFail _).runs _ _

theorem fleetPair_agree {left right : WorkerRunner} (same : left.groupName = right.groupName) :
    GroupsAgree (fleetPair left right) := by
  have either (index : Fin 7) (runner : WorkerRunner)
      (runs : (fleetPair left right index).runner = some runner) :
      runner.groupName = right.groupName := by
    match index with
    | 0 | 3 =>
        cases runs
        exact same
    | 1 | 4 =>
        cases runs
        rfl
    | 2 | 5 | 6 => cases runs
  intro first second reader other key runs others _ _
  rw [either first reader runs, either second other others]

/-- Whether an event respects `LeasesHold`. -/
def leaseHeld {ι : Type} (tasks : ι → FleetTask) : Event effects ι → Bool
  | .issue index (.redis (.get (.workerOnlineLease _))) (.ok lease) =>
      !(tasks index).isConsume || leaseOnline lease
  | _ => true

theorem leasesHold_of_all {ι : Type} {tasks : ι → FleetTask} {events : List (Event effects ι)}
    (all : events.all (leaseHeld tasks) = true) : Meets (LeasesHold tasks) events := by
  rintro past event rest rfl index workerId lease rfl consumes
  have held := List.all_eq_true.mp all _ (List.mem_append_right past List.mem_cons_self)
  simpa [leaseHeld, consumes] using held

def leftRunner : WorkerRunner := WorkerRunner.make "left" ["a"] none {}

def twinRunner : WorkerRunner := WorkerRunner.make "twin" ["a"] none {}

def rightRunner : WorkerRunner := WorkerRunner.make "right" ["a", "b"] none {}

theorem one_delivery_twins : passed (.ctrlStream "a") 0 (fleetPairRun leftRunner twinRunner).1 ≤ 1 :=
  one_delivery (fleetPair leftRunner twinRunner) (fun _ => False) (fleetPair_agree rfl)
    (fun _ => rfl) (fun _ _ => rfl) (fleetPairRun_runs _ _ _)
    (leasesHold_of_all (by decide +kernel)) (.ctrlStream "a") 0 rfl

/-- Whether nobody stopped, nothing is left to do, and everything was acknowledged. -/
def allDone (run : List (Event effects (Fin 7)) × Config effects Fleet (Fin 7) Unit) : Bool :=
  run.1.all (fun event => match event with | .stop _ => false | _ => true) &&
    (List.finRange 7).all (fun index => (run.2.result index).isSome) &&
    (run.2.state.store.stream (.ctrlStream "a")).groups.all fun group => group.2.pending.isEmpty

/-- Workers that share an agent type but not their lists read its stream in two groups. -/
theorem mixed_fleet_delivers_twice :
    Runs (fleetWorld (fun _ => False) (fleetPair leftRunner rightRunner)) (fun _ _ => True)
        ⟨emptyFleet, fun _ => none⟩ (fleetPairRun leftRunner rightRunner).1
        (fleetPairRun leftRunner rightRunner).2 ∧
      Meets (LeasesHold (fleetPair leftRunner rightRunner)) (fleetPairRun leftRunner rightRunner).1 ∧
      allDone (fleetPairRun leftRunner rightRunner) = true ∧
      passed (.ctrlStream "a") 0 (fleetPairRun leftRunner rightRunner).1 = 2 :=
  ⟨fleetPairRun_runs _ _ _, leasesHold_of_all (by decide +kernel), by decide +kernel,
    by decide +kernel⟩

end Mixed

end ByFramework
