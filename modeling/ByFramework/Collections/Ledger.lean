import Mathlib.Data.List.Nodup

/-!
Things that are opened one after the other and closed later. A ledger keeps every closing of each;
it is in order when what someone still holds is unclosed and all the rest was closed once.
-/

namespace Collections

/-- What was opened, in order, and how each was closed. -/
structure Ledger (Opening Closing : Type) where
  entries : List (Opening × List Closing)

namespace Ledger

variable {Opening Closing : Type}

def empty : Ledger Opening Closing := ⟨[]⟩

def size (ledger : Ledger Opening Closing) : Nat := ledger.entries.length

def opening (ledger : Ledger Opening Closing) (handle : Nat) : Option Opening :=
  ledger.entries[handle]?.map Prod.fst

def closings (ledger : Ledger Opening Closing) (handle : Nat) : List Closing :=
  (ledger.entries[handle]?.map Prod.snd).getD []

def enter (ledger : Ledger Opening Closing) (opening : Opening) : Ledger Opening Closing :=
  ⟨ledger.entries ++ [(opening, [])]⟩

def close (ledger : Ledger Opening Closing) (handle : Nat) (closing : Closing) :
    Ledger Opening Closing :=
  ⟨ledger.entries.modify handle fun entry => (entry.1, entry.2 ++ [closing])⟩

structure InOrder (ledger : Ledger Opening Closing) (held : List Nat) : Prop where
  distinct : held.Nodup
  known : ∀ handle ∈ held, handle < ledger.size
  closed : ∀ handle, handle < ledger.size →
    (ledger.closings handle).length = if handle ∈ held then 0 else 1

variable {ledger : Ledger Opening Closing} {held : List Nat} {handle : Nat}

@[simp] theorem size_enter (opening : Opening) : (ledger.enter opening).size = ledger.size + 1 := by
  simp [size, enter]

@[simp] theorem size_close (handle : Nat) (closing : Closing) :
    (ledger.close handle closing).size = ledger.size := by
  simp [size, close]

theorem opening_of_lt (known : handle < ledger.size) :
    ∃ opening, ledger.opening handle = some opening :=
  ⟨_, by rw [Ledger.opening, List.getElem?_eq_getElem known, Option.map_some]⟩

theorem lt_size_of_opening {opening : Opening} (opened : ledger.opening handle = some opening) :
    handle < ledger.size := by
  obtain ⟨entry, found, -⟩ := Option.map_eq_some_iff.mp opened
  exact (List.getElem?_eq_some_iff.mp found).1

theorem opening_enter (opening : Opening) (handle : Nat) :
    (ledger.enter opening).opening handle =
      if handle = ledger.size then some opening else ledger.opening handle := by
  by_cases last : handle = ledger.size
  · simp [Ledger.opening, enter, size, last]
  · have apart : handle ≠ ledger.entries.length := last
    rcases Nat.lt_or_gt_of_ne apart with early | late
    · simp [Ledger.opening, enter, last, List.getElem?_append_left early]
    · simp [Ledger.opening, enter, last, List.getElem?_append_right (Nat.le_of_lt late),
        List.getElem?_eq_none (Nat.le_of_lt late), Nat.sub_ne_zero_of_lt late]

@[simp] theorem opening_close (handle other : Nat) (closing : Closing) :
    (ledger.close handle closing).opening other = ledger.opening other := by
  simp only [opening, close, List.getElem?_modify]
  split
  · simp [Option.map_map, Function.comp_def]
  · simp

theorem closings_enter (opening : Opening) (handle : Nat) :
    (ledger.enter opening).closings handle = ledger.closings handle := by
  by_cases early : handle < ledger.entries.length
  · simp [closings, enter, List.getElem?_append_left early]
  · rw [Nat.not_lt] at early
    simp only [closings, enter, List.getElem?_append_right early, List.getElem?_eq_none early]
    cases handle - ledger.entries.length with
    | zero => rfl
    | succ further => rfl

theorem closings_close (known : handle < ledger.size) (closing : Closing) (other : Nat) :
    (ledger.close handle closing).closings other =
      if other = handle then ledger.closings other ++ [closing] else ledger.closings other := by
  by_cases same : other = handle
  · subst same
    have found : ledger.entries[other]? = some ledger.entries[other] :=
      List.getElem?_eq_getElem known
    simp [closings, close, found]
  · simp [closings, close, same, Ne.symm same]

theorem InOrder.empty : InOrder (Ledger.empty : Ledger Opening Closing) [] :=
  ⟨List.nodup_nil, by simp, fun handle within => absurd within (Nat.not_lt_zero handle)⟩

theorem InOrder.perm {other : List Nat} (order : ledger.InOrder held) (same : held.Perm other) :
    ledger.InOrder other where
  distinct := same.nodup order.distinct
  known handle inside := order.known handle (same.mem_iff.mpr inside)
  closed handle within := by
    rw [order.closed handle within]
    simp only [same.mem_iff]

theorem InOrder.enter (order : ledger.InOrder held) (opening : Opening) :
    (ledger.enter opening).InOrder (ledger.size :: held) where
  distinct := List.nodup_cons.mpr
    ⟨fun inside => Nat.lt_irrefl _ (order.known _ inside), order.distinct⟩
  known handle inside := by
    rw [size_enter]
    rcases List.mem_cons.mp inside with rfl | earlier
    · exact Nat.lt_succ_self _
    · exact Nat.lt_succ_of_lt (order.known handle earlier)
  closed handle within := by
    rw [size_enter] at within
    rw [closings_enter]
    by_cases last : handle = ledger.size
    · simp [last, closings, size]
    · have early : handle < ledger.size := Nat.lt_of_le_of_ne (Nat.le_of_lt_succ within) last
      simp [order.closed handle early, last]

theorem InOrder.close (order : ledger.InOrder (handle :: held)) (closing : Closing) :
    (ledger.close handle closing).InOrder held where
  distinct := (List.nodup_cons.mp order.distinct).2
  known other inside := by
    rw [size_close]
    exact order.known other (List.mem_cons_of_mem _ inside)
  closed other within := by
    rw [size_close] at within
    have counted := order.closed other within
    rw [closings_close (order.known handle List.mem_cons_self)]
    by_cases same : other = handle
    · subst same
      have gone := (List.nodup_cons.mp order.distinct).1
      simp [gone, counted]
    · rw [if_neg same, counted]
      simp [same]

end Ledger

end Collections
