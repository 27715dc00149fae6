import ByFramework.Redis.Store

/-! Which commands put a member into a set, and which take one out; what a written hash holds. -/

namespace Redis

variable {K V : Type} [DecidableEq K]

def Command.adds (key : K) (member : String) : Command K V → Bool
  | .sadd other name => other = key && name = member
  | _ => false

def Command.takes (key : K) (member : String) : Command K V → Bool
  | .srem other name => other = key && name = member
  | .set other _ _ _ | .del other => other = key
  | _ => false

theorem mem_upsert {β : Type} {field : String} {value : β} {entries : List (String × β)}
    {entry : String × β} (inside : entry ∈ upsert field value entries) :
    entry = (field, value) ∨ entry ∈ entries := by
  induction entries with
  | nil => exact .inl (List.mem_singleton.mp inside)
  | cons first rest ih =>
      rw [upsert] at inside
      split at inside
      · rcases List.mem_cons.mp inside with same | later
        · exact .inl same
        · exact .inr (List.mem_cons_of_mem _ later)
      · rcases List.mem_cons.mp inside with rfl | later
        · exact .inr List.mem_cons_self
        · exact (ih later).imp_right (List.mem_cons_of_mem _)

namespace Store

variable {store : Store K V} {key : K} {member : String}

theorem members_drop (dropped : K) :
    (store.drop dropped).members key = if key = dropped then [] else store.members key := by
  by_cases same : key = dropped
  · simp [drop, same]
  · simp [drop, same]

omit [DecidableEq K] in
theorem members_advance (lasting : store.expiresAt key = none) (now : Int) :
    (store.advance now).members key = store.members key := by
  simp [advance, lasting]

omit [DecidableEq K] in
theorem hash_advance (lasting : store.expiresAt key = none) (now : Int) :
    (store.advance now).hash key = store.hash key := by
  simp [advance, lasting]

omit [DecidableEq K] in
theorem expiresAt_advance (lasting : store.expiresAt key = none) (now : Int) :
    (store.advance now).expiresAt key = none := by
  simp [advance, lasting]

omit [DecidableEq K] in
theorem not_mem_advance (outside : member ∉ store.members key) (now : Int) :
    member ∉ (store.advance now).members key := by
  simp only [advance]
  split
  · simp
  · exact outside

variable [Counting V] {command : Command K V}

theorem mem_sadd (store : Store K V) (key : K) (member : String) :
    member ∈ (store.exec (.sadd key member)).2.members key := by
  simp only [exec]
  split
  · rename_i inside
    exact inside
  · simp

theorem not_mem_exec (outside : member ∉ store.members key)
    (spared : command.adds key member = false) :
    member ∉ (store.exec command).2.members key := by
  have dropped (other : K) : member ∉ (store.drop other).members key := by
    rw [members_drop]
    split
    · simp
    · exact outside
  cases command with
  | sadd other name =>
      simp only [exec]
      split
      · exact outside
      · by_cases same : key = other
        · subst same
          have differ : member ≠ name := by
            rintro rfl
            simp [Command.adds] at spared
          simp [outside, differ]
        · simpa [same] using outside
  | srem other name =>
      by_cases same : key = other
      · subst same
        simp [exec, outside]
      · simpa [exec, same] using outside
  | set other value ifAbsent ttl =>
      simp only [exec]
      split
      · exact outside
      · exact dropped other
  | del other => exact dropped other
  | expire _ _ =>
      simp only [exec]
      split <;> exact outside
  | hincrby _ _ _ =>
      simp only [exec]
      split <;> exact outside
  | xack _ _ _ =>
      simp only [exec]
      split <;> exact outside
  | xgroupCreate _ _ =>
      simp only [exec]
      split <;> exact outside
  | xreadgroup _ _ _ _ =>
      simp only [exec]
      split <;> exact outside
  | xpending _ _ _ =>
      simp only [exec]
      split <;> exact outside
  | xclaim _ _ _ _ _ =>
      simp only [exec]
      split <;> exact outside
  | _ => exact outside

theorem mem_exec (inside : member ∈ store.members key)
    (spared : command.takes key member = false) :
    member ∈ (store.exec command).2.members key := by
  have kept {other : K} (apart : decide (other = key) = false) :
      member ∈ (store.drop other).members key := by
    have differ : key ≠ other := fun same => by simp [same] at apart
    rw [members_drop, if_neg differ]
    exact inside
  cases command with
  | sadd other name =>
      simp only [exec]
      split
      · exact inside
      · by_cases same : key = other
        · subst same
          simp [inside]
        · simpa [same] using inside
  | srem other name =>
      by_cases same : key = other
      · subst same
        have differ : member ≠ name := by
          rintro rfl
          simp [Command.takes] at spared
        simp [exec, inside, differ]
      · simpa [exec, same] using inside
  | set other value ifAbsent ttl =>
      simp only [exec]
      split
      · exact inside
      · exact kept spared
  | del other => exact kept spared
  | expire _ _ =>
      simp only [exec]
      split <;> exact inside
  | hincrby _ _ _ =>
      simp only [exec]
      split <;> exact inside
  | xack _ _ _ =>
      simp only [exec]
      split <;> exact inside
  | xgroupCreate _ _ =>
      simp only [exec]
      split <;> exact inside
  | xreadgroup _ _ _ _ =>
      simp only [exec]
      split <;> exact inside
  | xpending _ _ _ =>
      simp only [exec]
      split <;> exact inside
  | xclaim _ _ _ _ _ =>
      simp only [exec]
      split <;> exact inside
  | _ => exact inside

end Store

end Redis
