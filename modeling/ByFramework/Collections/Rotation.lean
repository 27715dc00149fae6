import Mathlib.Data.Int.CardIntervalMod
import Mathlib.Data.List.Count

/-! Taking turns through a list, again and again: how often each item's turn comes. -/

namespace Collections

variable {α : Type}

def rotation (items : List α) (first count : Nat) : List (Option α) :=
  (List.range count).map fun turn => items[(first + turn) % items.length]?

theorem rotation_succ (items : List α) (first count : Nat) :
    rotation items first (count + 1) =
      rotation items first count ++ [items[(first + count) % items.length]?] := by
  simp [rotation, List.range_succ]

theorem count_range_map {β : Type} [BEq β] (next : Nat → β) (item : β) (falls : Nat → Prop)
    [DecidablePred falls] (decides : ∀ turn, (next turn == item) = decide (falls turn))
    (count : Nat) : ((List.range count).map next).count item = Nat.count falls count := by
  induction count with
  | zero => rfl
  | succ count ih =>
      rw [List.range_succ, List.map_append, List.count_append, ih, Nat.count_succ]
      simp [List.count_cons, decides]

theorem turn_iff {size position first turn : Nat} (inside : position < size) :
    (first + turn) % size = position ↔ turn ≡ position + (size - first % size) [MOD size] := by
  have below : first % size < size := Nat.mod_lt _ (by omega)
  have back : position + (size - first % size) + first ≡ position [MOD size] := by
    have whole : first = size * (first / size) + first % size := (Nat.div_add_mod _ _).symm
    have sum : position + (size - first % size) + first =
        position + size * (first / size + 1) := by
      rw [Nat.mul_add, Nat.mul_one]
      omega
    rw [sum]
    exact Nat.ModEq.symm (by simp [Nat.ModEq])
  constructor
  · intro falls
    have same : turn + first ≡ position [MOD size] := by
      rw [Nat.ModEq, Nat.add_comm turn first, falls, Nat.mod_eq_of_lt inside]
    exact Nat.ModEq.add_right_cancel' first (same.trans back.symm)
  · intro same
    have falls : turn + first ≡ position [MOD size] := (same.add_right first).trans back
    rw [Nat.add_comm first turn, falls, Nat.mod_eq_of_lt inside]

theorem count_rotation [DecidableEq α] {items : List α} (distinct : items.Nodup) {item : α}
    (listed : item ∈ items) (first count : Nat) :
    count / items.length ≤ (rotation items first count).count (some item) ∧
      (rotation items first count).count (some item) ≤ count / items.length + 1 ∧
      (count % items.length = 0 →
        (rotation items first count).count (some item) = count / items.length) := by
  obtain ⟨position, inside, rfl⟩ := List.mem_iff_getElem.mp listed
  have falls (turn : Nat) : items[(first + turn) % items.length]? = some items[position] ↔
      turn ≡ position + (items.length - first % items.length) [MOD items.length] := by
    rw [← turn_iff inside]
    have below : (first + turn) % items.length < items.length := Nat.mod_lt _ (by omega)
    rw [List.getElem?_eq_getElem below, Option.some_inj]
    exact distinct.getElem_inj_iff
  have shares : (rotation items first count).count (some items[position]) =
      count / items.length +
        if (position + (items.length - first % items.length)) % items.length <
          count % items.length then 1 else 0 := by
    rw [← Nat.count_modEq_card _ (by omega)]
    refine count_range_map _ _ _ (fun turn => ?_) count
    rw [← decide_eq_decide.mpr (falls turn), beq_eq_decide]
  rw [shares]
  refine ⟨Nat.le_add_right _ _, ?_, ?_⟩
  · split <;> omega
  · intro whole
    rw [whole, if_neg (Nat.not_lt_zero _)]
    rfl

end Collections
