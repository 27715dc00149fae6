import Mathlib.Data.List.Nodup

/-!
Maps that list their entries in the order the keys were first set, as JavaScript's `Map` does. No
key is listed twice.
-/

namespace Collections

structure InsertionMap (Key Value : Type) where
  entries : List (Key × Value)
  distinct : (entries.map Prod.fst).Nodup
deriving DecidableEq

namespace InsertionMap

variable {Key Value : Type}

def empty : InsertionMap Key Value := ⟨[], List.nodup_nil⟩

def keys (map : InsertionMap Key Value) : List Key := map.entries.map Prod.fst

def values (map : InsertionMap Key Value) : List Value := map.entries.map Prod.snd

def size (map : InsertionMap Key Value) : Nat := map.entries.length

variable [DecidableEq Key]

def lookup (key : Key) : List (Key × Value) → Option Value
  | [] => none
  | (other, held) :: rest => if other = key then some held else lookup key rest

def insert (key : Key) (value : Value) : List (Key × Value) → List (Key × Value)
  | [] => [(key, value)]
  | (other, held) :: rest =>
      if other = key then (other, value) :: rest else (other, held) :: insert key value rest

theorem keys_insert (key : Key) (value : Value) (entries : List (Key × Value)) :
    (insert key value entries).map Prod.fst =
      if key ∈ entries.map Prod.fst then entries.map Prod.fst
      else entries.map Prod.fst ++ [key] := by
  induction entries with
  | nil => rfl
  | cons entry rest ih =>
      obtain ⟨other, held⟩ := entry
      rw [insert]
      by_cases same : other = key
      · rw [if_pos same, if_pos (by simp [same])]
        rfl
      · have member : key ∈ ((other, held) :: rest).map Prod.fst ↔ key ∈ rest.map Prod.fst := by
          simp [Ne.symm same]
        rw [if_neg same, List.map_cons, ih]
        by_cases known : key ∈ rest.map Prod.fst
        · rw [if_pos known, if_pos (member.mpr known)]
          rfl
        · rw [if_neg known, if_neg fun listed => known (member.mp listed)]
          rfl

theorem insert_distinct (key : Key) (value : Value) (entries : List (Key × Value))
    (distinct : (entries.map Prod.fst).Nodup) :
    ((insert key value entries).map Prod.fst).Nodup := by
  rw [keys_insert]
  split
  · exact distinct
  · rename_i absent
    refine List.nodup_append.mpr ⟨distinct, List.nodup_singleton key, ?_⟩
    intro known listed last inLast same
    rw [List.mem_singleton.mp inLast] at same
    exact absent (same ▸ listed)

def get? (map : InsertionMap Key Value) (key : Key) : Option Value := lookup key map.entries

def has (map : InsertionMap Key Value) (key : Key) : Bool := (map.get? key).isSome

def set (map : InsertionMap Key Value) (key : Key) (value : Value) : InsertionMap Key Value :=
  ⟨insert key value map.entries, insert_distinct key value map.entries map.distinct⟩

def delete (map : InsertionMap Key Value) (key : Key) : InsertionMap Key Value :=
  ⟨map.entries.filter fun entry => entry.1 ≠ key,
    map.distinct.sublist (List.filter_sublist.map Prod.fst)⟩

def dropFirst (map : InsertionMap Key Value) (count : Nat) : InsertionMap Key Value :=
  ⟨map.entries.drop count, map.distinct.sublist ((List.drop_sublist count _).map Prod.fst)⟩

/-! ### Reading -/

theorem lookup_mem {key : Key} {value : Value} : ∀ {entries : List (Key × Value)},
    lookup key entries = some value → (key, value) ∈ entries := by
  intro entries
  induction entries with
  | nil => intro found; cases found
  | cons entry rest ih =>
      obtain ⟨other, held⟩ := entry
      intro found
      rw [lookup] at found
      split at found
      · rename_i same
        cases found
        rw [same]
        exact List.mem_cons_self
      · exact List.mem_cons_of_mem _ (ih found)

theorem lookup_isSome (key : Key) (entries : List (Key × Value)) :
    (lookup key entries).isSome = true ↔ key ∈ entries.map Prod.fst := by
  induction entries with
  | nil => simp [lookup]
  | cons entry rest ih =>
      obtain ⟨other, held⟩ := entry
      rw [lookup]
      by_cases same : other = key
      · simp [same]
      · rw [if_neg same, ih]
        simp [Ne.symm same]

theorem mem_of_get? {map : InsertionMap Key Value} {key : Key} {value : Value}
    (found : map.get? key = some value) : (key, value) ∈ map.entries :=
  lookup_mem found

theorem has_iff (map : InsertionMap Key Value) (key : Key) :
    map.has key = true ↔ key ∈ map.keys :=
  lookup_isSome key map.entries

theorem lookup_of_mem {key : Key} {value : Value} : ∀ {entries : List (Key × Value)},
    (entries.map Prod.fst).Nodup → (key, value) ∈ entries → lookup key entries = some value := by
  intro entries
  induction entries with
  | nil => intro _ listed; cases listed
  | cons entry rest ih =>
      obtain ⟨other, held⟩ := entry
      intro distinct listed
      obtain ⟨fresh, later⟩ := List.nodup_cons.mp distinct
      rw [lookup]
      rcases List.mem_cons.mp listed with first | further
      · cases first
        rw [if_pos rfl]
      · have elsewhere : other ≠ key := by
          intro same
          exact fresh (List.mem_map.mpr ⟨(key, value), further, same.symm⟩)
        rw [if_neg elsewhere, ih later further]

theorem get?_iff (map : InsertionMap Key Value) (key : Key) (value : Value) :
    map.get? key = some value ↔ (key, value) ∈ map.entries :=
  ⟨mem_of_get?, lookup_of_mem map.distinct⟩

/-! ### Writing -/

theorem lookup_insert_self (key : Key) (value : Value) (entries : List (Key × Value)) :
    lookup key (insert key value entries) = some value := by
  induction entries with
  | nil => simp [insert, lookup]
  | cons entry rest ih =>
      obtain ⟨other, held⟩ := entry
      rw [insert]
      split
      · rename_i same
        rw [lookup, if_pos same]
      · rename_i other_key
        rw [lookup, if_neg other_key, ih]

theorem lookup_insert_ne {key other : Key} (apart : other ≠ key) (value : Value)
    (entries : List (Key × Value)) :
    lookup other (insert key value entries) = lookup other entries := by
  induction entries with
  | nil => simp [insert, lookup, Ne.symm apart]
  | cons entry rest ih =>
      obtain ⟨known, held⟩ := entry
      rw [insert]
      split
      · rename_i same
        have elsewhere : ¬ known = other := fun equal => apart (equal.symm.trans same)
        rw [lookup, lookup, if_neg elsewhere, if_neg elsewhere]
      · rw [lookup, lookup, ih]

@[simp]
theorem get?_set_self (map : InsertionMap Key Value) (key : Key) (value : Value) :
    (map.set key value).get? key = some value :=
  lookup_insert_self key value map.entries

theorem get?_set_ne (map : InsertionMap Key Value) {key other : Key} (apart : other ≠ key)
    (value : Value) : (map.set key value).get? other = map.get? other :=
  lookup_insert_ne apart value map.entries

theorem keys_set (map : InsertionMap Key Value) (key : Key) (value : Value) :
    (map.set key value).keys = if key ∈ map.keys then map.keys else map.keys ++ [key] :=
  keys_insert key value map.entries

theorem mem_keys_set (map : InsertionMap Key Value) (key other : Key) (value : Value) :
    other ∈ (map.set key value).keys ↔ other = key ∨ other ∈ map.keys := by
  rw [keys_set]
  split
  · rename_i known
    constructor
    · exact Or.inr
    · rintro (rfl | listed)
      · exact known
      · exact listed
  · rw [List.mem_append, List.mem_singleton, or_comm]

theorem mem_set {map : InsertionMap Key Value} {key other : Key} {value held : Value}
    (listed : (other, held) ∈ (map.set key value).entries) :
    other = key ∧ held = value ∨ other ≠ key ∧ (other, held) ∈ map.entries := by
  have found := (get?_iff _ other held).mpr listed
  by_cases same : other = key
  · subst same
    rw [get?_set_self] at found
    exact .inl ⟨rfl, (Option.some.inj found).symm⟩
  · rw [get?_set_ne map same] at found
    exact .inr ⟨same, mem_of_get? found⟩

theorem size_set (map : InsertionMap Key Value) (key : Key) (value : Value) :
    (map.set key value).size = if key ∈ map.keys then map.size else map.size + 1 := by
  have counted : ∀ map : InsertionMap Key Value, map.size = map.keys.length := by
    intro map
    exact (List.length_map Prod.fst).symm
  rw [counted, counted, keys_set]
  split
  · rfl
  · simp

theorem insert_lookup {key : Key} {value : Value} : ∀ {entries : List (Key × Value)},
    lookup key entries = some value → insert key value entries = entries := by
  intro entries
  induction entries with
  | nil => intro found; cases found
  | cons entry rest ih =>
      obtain ⟨other, held⟩ := entry
      intro found
      rw [lookup] at found
      rw [insert]
      split at found
      · rename_i same
        cases found
        rw [if_pos same]
      · rename_i apart
        rw [if_neg apart, ih found]

theorem set_same {map : InsertionMap Key Value} {key : Key} {value : Value}
    (found : map.get? key = some value) : map.set key value = map := by
  obtain ⟨entries, distinct⟩ := map
  unfold set
  congr
  exact insert_lookup found

theorem mem_delete {map : InsertionMap Key Value} {key : Key} {entry : Key × Value}
    (listed : entry ∈ (map.delete key).entries) : entry ∈ map.entries :=
  List.mem_of_mem_filter listed

omit [DecidableEq Key] in
theorem mem_dropFirst {map : InsertionMap Key Value} {count : Nat} {entry : Key × Value}
    (listed : entry ∈ (map.dropFirst count).entries) : entry ∈ map.entries :=
  List.mem_of_mem_drop listed

omit [DecidableEq Key] in
theorem size_dropFirst (map : InsertionMap Key Value) (count : Nat) :
    (map.dropFirst count).size = map.size - count :=
  List.length_drop

theorem insert_absent {key : Key} (value : Value) : ∀ {entries : List (Key × Value)},
    lookup key entries = none → insert key value entries = entries ++ [(key, value)] := by
  intro entries
  induction entries with
  | nil => intro _; rfl
  | cons entry rest ih =>
      obtain ⟨other, held⟩ := entry
      intro absent
      rw [lookup] at absent
      rw [insert]
      split at absent
      · cases absent
      · rename_i apart
        rw [if_neg apart, ih absent]
        rfl

theorem values_set_absent {map : InsertionMap Key Value} {key : Key} (value : Value)
    (absent : map.get? key = none) : (map.set key value).values = map.values ++ [value] := by
  simp only [values, set, insert_absent value absent, List.map_append, List.map_cons, List.map_nil]

theorem filter_lookup_none {key : Key} : ∀ {entries : List (Key × Value)},
    lookup key entries = none → (entries.filter fun entry => entry.1 ≠ key) = entries := by
  intro entries absent
  refine List.filter_eq_self.mpr fun entry listed => ?_
  rw [decide_eq_true_eq]
  rintro rfl
  have known := (lookup_isSome entry.1 entries).mpr (List.mem_map_of_mem listed)
  rw [absent] at known
  cases known

theorem perm_insert {key : Key} {old : Value} (value : Value) : ∀ {entries : List (Key × Value)},
    (entries.map Prod.fst).Nodup → lookup key entries = some old →
      (insert key value entries).Perm
        ((key, value) :: entries.filter fun entry => entry.1 ≠ key) := by
  intro entries
  induction entries with
  | nil => intro _ found; cases found
  | cons entry rest ih =>
      obtain ⟨other, held⟩ := entry
      intro distinct found
      obtain ⟨fresh, later⟩ := List.nodup_cons.mp distinct
      rw [lookup] at found
      rw [insert]
      by_cases same : other = key
      · subst same
        have gone : lookup other rest = none := by
          rw [← Option.not_isSome_iff_eq_none, lookup_isSome]
          exact fresh
        rw [if_pos rfl, List.filter_cons_of_neg (by simp), filter_lookup_none gone]
      · rw [if_neg same] at found ⊢
        rw [List.filter_cons_of_pos (by simpa using same)]
        exact ((ih later found).cons _).trans (.swap _ _ _)

theorem values_set_perm {map : InsertionMap Key Value} {key : Key} {old : Value} (value : Value)
    (found : map.get? key = some old) :
    (map.set key value).values.Perm (value :: (map.delete key).values) :=
  (perm_insert value map.distinct found).map Prod.snd

theorem values_delete_perm {map : InsertionMap Key Value} {key : Key} {value : Value}
    (found : map.get? key = some value) :
    map.values.Perm (value :: (map.delete key).values) := by
  have same := values_set_perm value found
  rwa [set_same found] at same

end InsertionMap

end Collections
