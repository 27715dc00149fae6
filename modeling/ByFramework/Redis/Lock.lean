import ByFramework.Redis.Groups

/-!
Locks made of a key that is set where it is absent and expires: while one is held, no claim of
it comes through, and only commands that overwrite, delete or extend it change it.
-/

namespace Redis

namespace Store

variable {K V : Type} {store after : Store K V} {key : K} {value : V} {limit : Int}

/-- The key holds a value up to an instant. -/
structure Locked (store : Store K V) (key : K) (value : V) (limit : Int) : Prop where
  text : store.text key = some value
  expires : store.expiresAt key = some limit

theorem Locked.holds (locked : store.Locked key value limit) : store.holds key = true := by
  simp [Store.holds, locked.text]

theorem Locked.advance {now : Int} (locked : store.Locked key value limit) (early : now < limit) :
    (store.advance now).Locked key value limit := by
  have stays : ¬ limit ≤ now := by omega
  constructor
  · simp [Store.advance, locked.expires, stays, locked.text]
  · simp [Store.advance, locked.expires, stays]

variable [DecidableEq K] [Counting V]

theorem text_exec (store : Store K V) {command : Command K V} {kept : K → Bool} {key : K}
    (keeps : command.keeps kept = true) (held : kept key = true) :
    (store.exec command).2.text key = store.text key := by
  have apart {other : K} (free : (!kept other) = true) : key ≠ other := by
    rintro rfl
    simp [held] at free
  cases command with
  | set other value ifAbsent ttl =>
      simp only [exec]
      split
      · rfl
      · simp [apart keeps]
  | del other => simp [exec, drop, apart keeps]
  | _ => simp only [exec] <;> (try split) <;> rfl

theorem Locked.refuses (locked : store.Locked key value limit) (other : V) (ttl : Option Nat) :
    store.exec (.set key other true ttl) = (.ok false, store) := by
  simp [exec, locked.holds]

theorem Locked.of_claim {ttl : Nat}
    (claimed : store.exec (.set key value true (some ttl)) = (.ok true, after)) :
    after.Locked key value (store.clock + 1000 * ttl) := by
  simp only [exec] at claimed
  split at claimed
  · cases claimed
  · obtain rfl := congrArg Prod.snd claimed
    exact ⟨by simp, by simp [deadline]⟩

theorem Locked.exec {command : Command K V} (locked : store.Locked key value limit)
    (keeps : command.keeps (fun other => decide (other = key)) = true) :
    (store.exec command).2.Locked key value limit :=
  ⟨(text_exec store keeps (decide_eq_true rfl)).trans locked.text,
    (expiresAt_exec store keeps (decide_eq_true rfl)).trans locked.expires⟩

end Store

end Redis
