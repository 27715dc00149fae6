import Mathlib.Data.List.TakeWhile

/-! The part of a key that decides its slot in a Redis Cluster. -/

namespace Redis

def braced (key : List Char) : Option (List Char) :=
  let after := (key.dropWhile (· ≠ '\x7b')).drop 1
  if '\x7d' ∈ after then some (after.takeWhile (· ≠ '\x7d')) else none

/-- The braced part when there is one and it is not empty, otherwise the whole key. -/
def hashTag (key : List Char) : List Char :=
  match braced key with
  | some (char :: rest) => char :: rest
  | _ => key

variable {heading id ending : List Char}

theorem takeWhile_closing (id ending : List Char) :
    (id ++ '\x7d' :: ending).takeWhile (· ≠ '\x7d') = id.takeWhile (· ≠ '\x7d') := by
  induction id with
  | nil => simp
  | cons char id ih =>
      by_cases closes : char = '\x7d'
      · simp [closes]
      · simp only [List.cons_append, List.takeWhile_cons, ih]

theorem braced_fill (clean : '\x7b' ∉ heading) :
    braced (heading ++ '\x7b' :: (id ++ '\x7d' :: ending)) = some (id.takeWhile (· ≠ '\x7d')) := by
  have skipped : (heading ++ '\x7b' :: (id ++ '\x7d' :: ending)).dropWhile (· ≠ '\x7b') =
      '\x7b' :: (id ++ '\x7d' :: ending) := by
    rw [List.dropWhile_append_of_pos]
    · simp
    · intro char inside
      have differs : char ≠ '\x7b' := fun same => clean (same ▸ inside)
      simpa using differs
  unfold braced
  rw [skipped]
  simp only [List.drop_succ_cons, List.drop_zero, takeWhile_closing]
  simp

/-- Whether an id in braces gives its key a hash tag of its own. -/
def tagsItself (id : List Char) : Bool := !(id.takeWhile (· ≠ '\x7d')).isEmpty

theorem tagsItself_iff : tagsItself id = true ↔ id ≠ [] ∧ id.head? ≠ some '\x7d' := by
  cases id with
  | nil => simp [tagsItself]
  | cons char id =>
      by_cases closes : char = '\x7d'
      · simp [tagsItself, closes]
      · simp [tagsItself, closes]

theorem hashTag_fill (clean : '\x7b' ∉ heading) (tags : tagsItself id = true) :
    hashTag (heading ++ '\x7b' :: (id ++ '\x7d' :: ending)) = id.takeWhile (· ≠ '\x7d') := by
  unfold hashTag
  rw [braced_fill clean]
  unfold tagsItself at tags
  cases part : id.takeWhile (· ≠ '\x7d') with
  | nil =>
      rw [part] at tags
      cases tags
  | cons char rest => rfl

theorem hashTag_fill_bare (clean : '\x7b' ∉ heading) (bare : tagsItself id = false) :
    hashTag (heading ++ '\x7b' :: (id ++ '\x7d' :: ending)) =
      heading ++ '\x7b' :: (id ++ '\x7d' :: ending) := by
  unfold hashTag
  rw [braced_fill clean]
  unfold tagsItself at bare
  cases part : id.takeWhile (· ≠ '\x7d') with
  | nil => rfl
  | cons char rest =>
      rw [part] at bare
      cases bare

end Redis
