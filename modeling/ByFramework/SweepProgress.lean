import ByFramework.MemberCodec
import ByFramework.Redis.Ranked
import ByFramework.SweepTriage

/-!
The backlog of a shard: pass after pass takes the lowest scores that are due, and what it triages
leaves or goes behind everything that was due before.
-/

namespace ByFramework

open Async Redis

/-- The entries of a shard that are due, in the order in which they are taken. -/
def dueEntries (store : RedisStore) (shard : Nat) : List (String × Int) :=
  between 0 store.clock (store.scored (.waitIndex shard))

def dueBatch (store : RedisStore) (shard : Nat) : List (String × Int) :=
  (dueEntries store shard).take waitSweepBatchLimit

/-- Entries triaged one after the other, each where its triage meets a condition. -/
inductive Triages (options : SweeperOptions) (indexKey : Key)
    (meets : RedisStore → String × Int → Prop) :
    RedisStore → List (String × Int) → RedisStore → Prop where
  | nil {store : RedisStore} : Triages options indexKey meets store [] store
  | cons {entry : String × Int} {rest : List (String × Int)} {before middle after : RedisStore}
      {outcome : Except JsError SweepOutcome × Unit} (met : meets before entry)
      (ends : Prog.Ends clockServe ((resolveEntry options indexKey entry.1 entry.2 :
        Proc Unit _).start ()) before outcome middle)
      (others : Triages options indexKey meets middle rest after) :
      Triages options indexKey meets before (entry :: rest) after

section

variable {options : SweeperOptions} {shard : Nat} {indexKey : Key}

theorem wp_resolveEntry_ends {store : RedisStore} {entry : String × Int} :
    (resolveEntry options indexKey entry.1 entry.2 : Proc Unit _).wp (Setting.alone clockServe)
      (fun outcome memory after => Prog.Ends clockServe ((resolveEntry options indexKey entry.1
        entry.2 : Proc Unit _).start ()) store (outcome, memory) after) () store := by
  have anything : ((resolveEntry options indexKey entry.1 entry.2 : Proc Unit _).start ()).wp
      (Setting.alone clockServe) (fun _ _ => True) store :=
    Prog.wp_any fun _ _ => trivial
  exact Prog.wp_mono (Prog.wp_ending anything) fun _ _ _ ended => ended.2

/-- An entry that throws is passed over: every entry of a batch is triaged. -/
theorem wp_resolveEach {store : RedisStore} {entries : List (String × Int)} {outcomes : Outcomes} :
    (resolveEach options indexKey entries outcomes : Proc Unit _).wp (Setting.alone clockServe)
      (fun _ _ after => Triages options indexKey (fun _ _ => True) store entries after) ()
      store := by
  induction entries generalizing store outcomes with
  | nil => exact Task.wp_alone_pure .nil
  | cons entry rest ih =>
      refine Task.wp_alone_bind (Task.wp_alone_tryCatch (Task.wp_mono wp_resolveEntry_ends ?_))
      rintro outcome _ middle - ends
      have others {left : Outcomes} := Task.wp_mono (@ih middle left)
        fun _ _ _ _ triages => Triages.cons trivial ends triages
      cases outcome with
      | ok outcome => exact others
      | error error => exact Task.wp_alone_pure others

theorem resolveDueEntries_triages {before after : RedisStore}
    {outcome : Except JsError Outcomes × Unit}
    (ends : Prog.Ends clockServe ((resolveDueEntries options shard : Proc Unit _).start ()) before
      outcome after) :
    Triages options (.waitIndex shard) (fun _ _ => True) before (dueBatch before shard) after := by
  have taken : (resolveDueEntries options shard : Proc Unit _).wp (Setting.alone clockServe)
      (fun _ _ after => Triages options (.waitIndex shard) (fun _ _ => True) before
        (dueBatch before shard) after) () before := by
    refine Task.wp_alone_bind (wp_dateNow_clock ?_)
    exact Task.wp_alone_bind (wp_redis_clock wp_resolveEach)
  exact Task.wp_ends ends taken

theorem clock_of_ends {α : Type} {program : Prog effects α} {before after : RedisStore} {value : α}
    (ends : Prog.Ends clockServe program before value after) : after.clock = before.clock := by
  induction ends with
  | done => rfl
  | @call op resume reply value before middle last served _ ih =>
      have same : middle.clock = before.clock := by
        cases op with
        | redis command =>
            have executed : (before.exec command).2 = middle := congrArg Prod.snd served
            rw [← executed]
            exact Redis.Store.clock_exec before command
        | now => rw [served.2]
        | _ => rw [served]
      exact ih.trans same

/-- Neither a wait for a user of a suspended caller, nor an entry whose records cannot be read. -/
def Movable (indexKey : Key) (store : RedisStore) (entry : String × Int) : Prop :=
  ∀ wait, decodeMember entry.1 = .ok wait → ¬ AsksUser ⟨indexKey, entry.1, entry.2, wait⟩ store ∧
    (∃ caller, recordOf store wait.parentMessageId wait.sessionId = .ok caller) ∧
    ∃ child, recordOf store wait.childMessageId wait.sessionId = .ok child

def Moved (indexKey : Key) (entry : String × Int) (before after : RedisStore) : Prop :=
  after.scored indexKey = without entry.1 (before.scored indexKey) ∨
    after.scored indexKey = insertScored entry.1 (before.clock + waitRenewIncrementMs)
      (without entry.1 (before.scored indexKey))

theorem moved_of_ends {entry : String × Int} {before after : RedisStore}
    {outcome : Except JsError SweepOutcome × Unit}
    (movable : Movable (.waitIndex shard) before entry)
    (ends : Prog.Ends clockServe ((resolveEntry options (.waitIndex shard) entry.1 entry.2 :
      Proc Unit _).start ()) before outcome after) :
    Moved (.waitIndex shard) entry before after := by
  have moves : (resolveEntry options (.waitIndex shard) entry.1 entry.2 : Proc Unit _).wp
      (Setting.alone clockServe) (fun _ _ after => Moved (.waitIndex shard) entry before after) ()
      before := by
    unfold resolveEntry
    split
    · refine Task.wp_alone_bind (wp_redis_clock (Task.wp_alone_pure (.inl ?_)))
      simp only [Redis.Store.exec, Function.update_self]
    · rename_i wait decoded
      obtain ⟨stays, ⟨caller, called⟩, child, asked⟩ := movable wait decoded
      refine Task.wp_mono (wp_resolveDecoded rfl) ?_
      intro outcome _ after _ verdict
      cases verdict with
      | removed gone silent => exact .inl gone
      | raised renewed silent => exact .inr renewed
      | skipped asks => exact absurd asks stays
      | answered renewed answerable told => exact .inr renewed
      | unread unreadable =>
          rcases unreadable with unread | unread
          · rw [called] at unread
            cases unread
          · rw [asked] at unread
            cases unread
  exact Task.wp_ends ends moves

theorem Moved.ranked {entry : String × Int} {before after : RedisStore}
    (moved : Moved indexKey entry before after) (ranked : Ranked (before.scored indexKey)) :
    Ranked (after.scored indexKey) := by
  have others := ranked.without entry.1
  rcases moved with gone | raised
  · rw [gone]
    exact others
  · rw [raised]
    refine others.insertScored ?_
    simp [map_without]

theorem Moved.backlog {entry : String × Int} {before after : RedisStore} {horizon : Int}
    (moved : Moved indexKey entry before after) (past : horizon ≤ before.clock) :
    between 0 horizon (after.scored indexKey) =
      without entry.1 (between 0 horizon (before.scored indexKey)) := by
  have kept : between 0 horizon (without entry.1 (before.scored indexKey)) =
      without entry.1 (between 0 horizon (before.scored indexKey)) := by
    unfold Redis.between without
    rw [List.filter_filter, List.filter_filter]
    exact List.filter_congr fun _ _ => Bool.and_comm _ _
  rcases moved with gone | raised
  · rw [gone, kept]
  · rw [raised, ← kept]
    obtain ⟨front, back, split, inserted, _⟩ := Ranked.insertScored_split entry.1
      (before.clock + waitRenewIncrementMs) (without entry.1 (before.scored indexKey))
    have late : ¬ before.clock + waitRenewIncrementMs ≤ horizon := by
      have positive : 0 < waitRenewIncrementMs := by decide
      omega
    rw [inserted, split]
    simp [Redis.between, late]

theorem Triages.backlog {before after : RedisStore} {entries : List (String × Int)} {horizon : Int}
    (triages : Triages options (.waitIndex shard) (Movable (.waitIndex shard)) before entries after)
    (ranked : Ranked (before.scored (.waitIndex shard))) (past : horizon ≤ before.clock) :
    Ranked (after.scored (.waitIndex shard)) ∧ after.clock = before.clock ∧
      between 0 horizon (after.scored (.waitIndex shard)) =
        (between 0 horizon (before.scored (.waitIndex shard))).filter fun entry =>
          entry.1 ∉ entries.map Prod.fst := by
  induction triages with
  | nil => exact ⟨ranked, rfl, by simp⟩
  | cons movable ends _ ih =>
      rename_i first rest before middle after outcome
      have moved := moved_of_ends movable ends
      have clock := clock_of_ends ends
      obtain ⟨ranked, stood, left⟩ := ih (moved.ranked ranked) (by omega)
      refine ⟨ranked, stood.trans clock, ?_⟩
      rw [left, moved.backlog past]
      unfold without
      rw [List.filter_filter]
      refine List.filter_congr fun entry _ => ?_
      simp only [List.map_cons, List.mem_cons, not_or, Bool.decide_and, ne_eq]
      exact Bool.and_comm _ _

theorem pass_drops {before after : RedisStore} {horizon : Int}
    (triages : Triages options (.waitIndex shard) (Movable (.waitIndex shard)) before
      (dueBatch before shard) after)
    (ranked : Ranked (before.scored (.waitIndex shard))) (past : horizon ≤ before.clock) :
    (between 0 horizon (before.scored (.waitIndex shard))).take waitSweepBatchLimit <+:
        dueBatch before shard ∧
      between 0 horizon (after.scored (.waitIndex shard)) =
        (between 0 horizon (before.scored (.waitIndex shard))).drop waitSweepBatchLimit := by
  have split := @Ranked.between_append _ ranked 0 _ _ past
  have distinct : ((between 0 before.clock (before.scored (.waitIndex shard))).map
      Prod.fst).Nodup :=
    ranked.distinct.sublist (List.filter_sublist.map _)
  constructor
  · unfold dueBatch dueEntries
    rw [split]
    exact (List.prefix_append _ _).take _
  · rw [(triages.backlog ranked past).2.2]
    unfold dueBatch dueEntries
    rw [split] at distinct ⊢
    exact filter_taken distinct

end

/-! ### Runs of passes -/

/-- Time passes between two passes, and nobody registers or answers a wait of the shard. -/
structure Idles (shard : Nat) (before after : RedisStore) : Prop where
  clock : before.clock ≤ after.clock
  index : after.scored (.waitIndex shard) = before.scored (.waitIndex shard)

/-- Passes over a shard, with what each of them triaged. -/
inductive Sweeps (options : SweeperOptions) (shard : Nat)
    (meets : RedisStore → String × Int → Prop) :
    RedisStore → List (List (String × Int)) → RedisStore → Prop where
  | none {store : RedisStore} : Sweeps options shard meets store [] store
  | pass {before waking swept last : RedisStore} {batches : List (List (String × Int))}
      (idles : Idles shard before waking)
      (triages : Triages options (.waitIndex shard) meets waking (dueBatch waking shard) swept)
      (rest : Sweeps options shard meets swept batches last) :
      Sweeps options shard meets before (dueBatch waking shard :: batches) last

theorem Sweeps.reaches {options : SweeperOptions} {shard : Nat} {store last : RedisStore}
    {batches : List (List (String × Int))} {horizon : Int} {entry : String × Int}
    (sweeps : Sweeps options shard (Movable (.waitIndex shard)) store batches last)
    (ranked : Ranked (store.scored (.waitIndex shard))) (past : horizon ≤ store.clock)
    (within : entry ∈ (between 0 horizon (store.scored (.waitIndex shard))).take
      (waitSweepBatchLimit * batches.length)) : ∃ batch ∈ batches, entry ∈ batch := by
  induction sweeps with
  | none => simp at within
  | @pass before waking swept last batches idles triages rest ih =>
      have ranked : Ranked (waking.scored (.waitIndex shard)) := by rwa [idles.index]
      have past : horizon ≤ waking.clock := past.trans idles.clock
      rw [← idles.index] at within
      obtain ⟨front, left⟩ := pass_drops triages ranked past
      obtain ⟨ranked, clock, _⟩ := triages.backlog ranked past
      have total : waitSweepBatchLimit * (dueBatch waking shard :: batches).length =
          waitSweepBatchLimit + waitSweepBatchLimit * batches.length := by
        rw [List.length_cons, Nat.mul_succ, Nat.add_comm]
      rw [total, List.take_add] at within
      rcases List.mem_append.mp within with first | later
      · exact ⟨_, List.mem_cons_self, front.subset first⟩
      · rw [← left] at later
        obtain ⟨batch, listed, inside⟩ := ih ranked (past.trans clock.ge) later
        exact ⟨batch, List.mem_cons_of_mem _ listed, inside⟩

/-- A wait for a user of a suspended caller. -/
def Stuck (indexKey : Key) (store : RedisStore) (entry : String × Int) : Prop :=
  ∃ wait, decodeMember entry.1 = .ok wait ∧ AsksUser ⟨indexKey, entry.1, entry.2, wait⟩ store

theorem still_of_stuck {options : SweeperOptions} {indexKey : Key} {entry : String × Int}
    {before after : RedisStore} {outcome : Except JsError SweepOutcome × Unit}
    (stuck : Stuck indexKey before entry)
    (ends : Prog.Ends clockServe ((resolveEntry options indexKey entry.1 entry.2 :
      Proc Unit _).start ()) before outcome after) : after = before := by
  obtain ⟨wait, decoded, unasked, caller, called, suspended⟩ := stuck
  have unfinished := unfinished_of_suspended suspended
  have stays : (resolveEntry options indexKey entry.1 entry.2 : Proc Unit _).wp
      (Setting.alone clockServe) (fun _ _ after => after = before) () before := by
    unfold resolveEntry
    rw [decoded]
    refine Task.wp_alone_bind (wp_recordOf ?_)
    dsimp only at called unasked ⊢
    rw [called]
    dsimp only
    rw [unfinished, suspended, if_neg (by decide), if_neg (by decide), if_pos unasked]
    exact Task.wp_alone_pure rfl
  exact Task.wp_ends ends stays

theorem Triages.still {options : SweeperOptions} {indexKey : Key} {before after : RedisStore}
    {entries : List (String × Int)}
    (triages : Triages options indexKey (Stuck indexKey) before entries after) :
    after = before := by
  induction triages with
  | nil => rfl
  | cons stuck ends _ ih => rw [ih, still_of_stuck stuck ends]

end ByFramework
