import ByFramework.Redis.StoreCore

/-! What the commands of the store change, and what they leave alone. -/

namespace Redis

variable {K V β : Type}

theorem lookup_cons_if (query : String) (entry : String × β) (rest : List (String × β)) :
    (entry :: rest).lookup query = if query = entry.1 then some entry.2 else rest.lookup query := by
  obtain ⟨field, value⟩ := entry
  by_cases same : query = field
  · simp [same]
  · have differ : (query == field) = false := by simpa using same
    simp [List.lookup_cons, same, differ]

theorem lookup_upsert (field other : String) (value : β) (entries : List (String × β)) :
    (upsert field value entries).lookup other =
      if other = field then some value else entries.lookup other := by
  induction entries with
  | nil => simp [upsert, lookup_cons_if]
  | cons entry rest ih =>
      by_cases same : entry.1 = field
      · subst same
        simp only [upsert, ↓reduceIte, lookup_cons_if]
        split <;> rfl
      · simp only [upsert, same, ↓reduceIte, lookup_cons_if, ih]
        split
        · rename_i found
          have differ : other ≠ field := fun equal => same (found ▸ equal)
          simp [differ]
        · rfl

theorem lookup_without (member other : String) (scored : List (String × Int)) :
    (without member scored).lookup other =
      if other = member then none else scored.lookup other := by
  induction scored with
  | nil => simp [without]
  | cons entry rest ih =>
      by_cases same : entry.1 = member
      · subst same
        simp only [without, ne_eq, not_true_eq_false, decide_false, Bool.false_eq_true,
          not_false_eq_true, List.filter_cons_of_neg, lookup_cons_if] at ih ⊢
        rw [ih]
        split <;> rfl
      · simp only [without, ne_eq, same, not_false_eq_true, decide_true, List.filter_cons_of_pos,
          lookup_cons_if] at ih ⊢
        rw [ih]
        split
        · rename_i found
          have differ : other ≠ member := fun equal => same (found ▸ equal)
          simp [differ]
        · rfl

theorem lookup_insertScored (member other : String) (score : Int) (scored : List (String × Int))
    (absent : scored.lookup member = none) :
    (insertScored member score scored).lookup other =
      if other = member then some score else scored.lookup other := by
  induction scored with
  | nil => simp [insertScored, lookup_cons_if]
  | cons entry rest ih =>
      simp only [lookup_cons_if] at absent
      split at absent
      · simp at absent
      · rename_i differ
        by_cases below : entry.2 ≤ score
        · simp only [insertScored, below, ↓reduceIte, lookup_cons_if, ih absent]
          by_cases same : other = entry.1
          · have other : other ≠ member := fun equal => differ (equal ▸ same)
            simp [same, Ne.symm differ]
          · simp [same]
        · simp [insertScored, below, lookup_cons_if]

theorem mem_insertScored {member : String} {score : Int} {scored : List (String × Int)}
    {entry : String × Int} :
    entry ∈ insertScored member score scored ↔ entry = (member, score) ∨ entry ∈ scored := by
  induction scored with
  | nil => simp [insertScored]
  | cons first rest ih =>
      simp only [insertScored]
      split
      · simp only [List.mem_cons, ih, or_left_comm]
      · exact List.mem_cons

theorem lookup_filter_none {entries : List (String × β)} {query : String}
    (keep : String × β → Bool) (absent : entries.lookup query = none) :
    (entries.filter keep).lookup query = none := by
  rw [List.lookup_eq_none_iff] at absent ⊢
  exact fun entry kept => absent entry (List.mem_filter.mp kept).1

def Command.rewrites [DecidableEq K] (key : K) : Command K V → Bool
  | .set other _ _ _ | .del other | .hset other _ | .hincrby other _ _ => other = key
  | _ => false

namespace Store

def score (store : Store K V) (key : K) (member : String) : Option Int :=
  (store.scored key).lookup member

def field (store : Store K V) (key : K) (name : String) : Option V :=
  (store.hash key).lookup name

variable [DecidableEq K] [Counting V]

theorem clock_exec (store : Store K V) (command : Command K V) :
    (store.exec command).2.clock = store.clock := by
  cases command <;> simp only [exec] <;> (try split) <;> rfl

theorem score_zrem (store : Store K V) (key other : K) (member query : String) :
    (store.exec (.zrem key member)).2.score other query =
      if other = key ∧ query = member then none else store.score other query := by
  by_cases sameKey : other = key
  · subst sameKey
    simp [exec, score, lookup_without]
  · simp [exec, score, sameKey]

theorem score_zadd (store : Store K V) (key other : K) (member query : String) (rank : Int) :
    (store.exec (.zadd key member rank)).2.score other query =
      if other = key ∧ query = member then some rank else store.score other query := by
  by_cases sameKey : other = key
  · subst sameKey
    have absent : (without member (store.scored other)).lookup member = none := by
      simp [lookup_without]
    simp only [exec, score, Function.update_self, true_and]
    rw [lookup_insertScored _ _ _ _ absent, lookup_without]
    split <;> rfl
  · simp [exec, score, sameKey]

theorem exec_zrem_reply (store : Store K V) (key : K) (member : String) :
    (store.exec (.zrem key member)).1 =
      .ok (if (store.score key member).isSome then 1 else 0 : Nat) := rfl

omit [Counting V] in
theorem score_drop {store : Store K V} {key : K} {query : String}
    (dropped : K) (absent : store.score key query = none) :
    (store.drop dropped).score key query = none := by
  by_cases same : key = dropped
  · simp [score, drop, same]
  · simpa [score, drop, same] using absent

/-- Only a `ZADD` brings a member into a sorted set. -/
theorem score_exec_absent {store : Store K V} {command : Command K V} {key : K} {query : String}
    (absent : store.score key query = none) (other : ∀ rank, command ≠ .zadd key query rank) :
    (store.exec command).2.score key query = none := by
  cases command with
  | set stored value ifAbsent ttl =>
      simp only [exec]
      split
      · exact absent
      · exact score_drop stored absent
  | del dropped => exact score_drop dropped absent
  | zadd added member rank =>
      rw [score_zadd]
      split
      · rename_i same
        exact absurd (by rw [same.1, same.2]) (other rank)
      · exact absent
  | zrem removed member =>
      rw [score_zrem]
      split
      · rfl
      · exact absent
  | zremrangebyscore trimmed low high =>
      by_cases same : key = trimmed
      · subst same
        simp only [exec, score, Function.update_self]
        exact lookup_filter_none _ absent
      · simpa [exec, score, same] using absent
  | get _ => exact absent
  | existsKey _ => exact absent
  | hget _ _ => exact absent
  | hset _ _ => exact absent
  | hgetall _ => exact absent
  | srem _ _ => exact absent
  | smembers _ => exact absent
  | sismember _ _ => exact absent
  | zrangebyscore _ _ _ _ => exact absent
  | xadd _ _ => exact absent
  | expire _ _ =>
      simp only [exec]
      split <;> exact absent
  | hincrby _ _ _ =>
      simp only [exec]
      split <;> exact absent
  | sadd _ _ =>
      simp only [exec]
      split <;> exact absent
  | xack _ _ _ =>
      simp only [exec]
      split <;> exact absent
  | xgroupCreate _ _ =>
      simp only [exec]
      split <;> exact absent
  | xreadgroup _ _ _ _ =>
      simp only [exec]
      split <;> exact absent
  | xpending _ _ _ =>
      simp only [exec]
      split <;> exact absent
  | xclaim _ _ _ _ _ =>
      simp only [exec]
      split <;> exact absent

omit [Counting V] [DecidableEq K] in
theorem score_advance_absent {store : Store K V} {key : K} {query : String} (now : Int)
    (absent : store.score key query = none) : (store.advance now).score key query = none := by
  simp only [advance, score]
  split
  · rfl
  · exact absent

omit [Counting V] [DecidableEq K] in
/-- A range read shows only members that are there. -/
theorem mem_zrangebyscore {store : Store K V} {key : K} {low high : Int} {limit : Nat}
    {entry : String × Int}
    (read : entry ∈ ((store.scored key).filter fun entry =>
      decide (low ≤ entry.2) && decide (entry.2 ≤ high)).take limit) :
    store.score key entry.1 ≠ none := by
  intro absent
  rw [score, List.lookup_eq_none_iff] at absent
  have shown := List.mem_filter.mp (List.mem_of_mem_take read)
  simpa using absent entry shown.1

theorem holds_zrem (store : Store K V) (key other : K) (member : String)
    (differ : other ≠ key) :
    (store.exec (.zrem key member)).2.holds other = store.holds other := by
  simp [exec, holds, differ]

theorem holds_set (store : Store K V) (key other : K) (value : V) (ttl : Option Nat) :
    (store.exec (.set key value false ttl)).2.holds other =
      (decide (other = key) || store.holds other) := by
  by_cases same : other = key
  · simp [exec, holds, same]
  · simp [exec, holds, drop, same]

theorem score_set (store : Store K V) (key other : K) (value : V) (ttl : Option Nat)
    (query : String) (differ : other ≠ key) :
    (store.exec (.set key value false ttl)).2.score other query = store.score other query := by
  simp [exec, score, drop, differ]

theorem holds_zadd (store : Store K V) (key other : K) (member : String) (rank : Int)
    (differ : other ≠ key) :
    (store.exec (.zadd key member rank)).2.holds other = store.holds other := by
  simp [exec, holds, differ]

theorem holds_del (store : Store K V) (key other : K) :
    (store.exec (.del key)).2.holds other = (decide (other ≠ key) && store.holds other) := by
  by_cases same : other = key
  · simp [exec, holds, drop, same]
  · simp [exec, holds, drop, same]

theorem score_del (store : Store K V) (key other : K) (query : String) (differ : other ≠ key) :
    (store.exec (.del key)).2.score other query = store.score other query := by
  simp [exec, score, drop, differ]

theorem field_hset (store : Store K V) (key other : K) (name query : String) (value : V) :
    (store.exec (.hset key [(name, value)])).2.field other query =
      if other = key ∧ query = name then some value else store.field other query := by
  by_cases sameKey : other = key
  · subst sameKey
    simp [exec, field, upsertAll, lookup_upsert]
  · simp [exec, field, sameKey]

theorem hash_exec {store : Store K V} {command : Command K V} {key : K}
    (spares : command.rewrites key = false) :
    (store.exec command).2.hash key = store.hash key := by
  cases command with
  | set other value ifAbsent ttl =>
      have apart : key ≠ other := fun same => by simp [Command.rewrites, same] at spares
      simp only [exec]
      split
      · rfl
      · simp [drop, apart]
  | del other =>
      have apart : key ≠ other := fun same => by simp [Command.rewrites, same] at spares
      simp [exec, drop, apart]
  | hset other fields =>
      have apart : key ≠ other := fun same => by simp [Command.rewrites, same] at spares
      simp [exec, apart]
  | hincrby other name amount =>
      have apart : key ≠ other := fun same => by simp [Command.rewrites, same] at spares
      simp only [exec]
      split
      · rfl
      · simp [apart]
  | expire _ _ =>
      simp only [exec]
      split <;> rfl
  | sadd _ _ =>
      simp only [exec]
      split <;> rfl
  | xack _ _ _ =>
      simp only [exec]
      split <;> rfl
  | xgroupCreate _ _ =>
      simp only [exec]
      split <;> rfl
  | xreadgroup _ _ _ _ =>
      simp only [exec]
      split <;> rfl
  | xpending _ _ _ =>
      simp only [exec]
      split <;> rfl
  | xclaim _ _ _ _ _ =>
      simp only [exec]
      split <;> rfl
  | _ => rfl

theorem field_expire (store : Store K V) (key other : K) (ttl : Nat) (query : String) :
    (store.exec (.expire key ttl)).2.field other query = store.field other query := by
  simp only [exec]
  split <;> rfl

theorem exec_hincrby (store : Store K V) (key : K) (name : String) (amount current : Int)
    (value : V) (found : store.field key name = some value)
    (counts : Counting.toInt value = some current) :
    store.exec (.hincrby key name amount) = (.ok (current + amount), { store with
      hash := Function.update store.hash key
        (upsert name (Counting.ofInt (current + amount)) (store.hash key)) }) := by
  simp only [field] at found
  simp [exec, found, counts]

theorem field_hincrby (store : Store K V) (key other : K) (name query : String)
    (amount current : Int) (value : V) (found : store.field key name = some value)
    (counts : Counting.toInt value = some current) :
    (store.exec (.hincrby key name amount)).2.field other query =
      if other = key ∧ query = name then some (Counting.ofInt (current + amount))
      else store.field other query := by
  rw [exec_hincrby store key name amount current value found counts]
  by_cases sameKey : other = key
  · subst sameKey
    simp [field, lookup_upsert]
  · simp [field, sameKey]

end Store

end Redis
