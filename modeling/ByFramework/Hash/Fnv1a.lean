import Mathlib.Algebra.Group.Nat.Defs

/-! FNV-1a on 32 bits, over unsigned numbers. -/

namespace Hash.Fnv1a

def offsetBasis : Nat := 2166136261

def prime : Nat := 16777619

def absorb (digest byte : Nat) : Nat := (digest ^^^ byte) * prime % 2 ^ 32

def absorbAll (digest : Nat) (bytes : List Nat) : Nat := bytes.foldl absorb digest

def fnv1a (bytes : List Nat) : Nat := absorbAll offsetBasis bytes

theorem absorb_lt (digest byte : Nat) : absorb digest byte < 2 ^ 32 :=
  Nat.mod_lt _ (by omega)

theorem absorbAll_lt (bytes : List Nat) : ∀ digest, digest < 2 ^ 32 →
    absorbAll digest bytes < 2 ^ 32 := by
  induction bytes with
  | nil => intro digest bound; exact bound
  | cons byte rest ih => intro digest _; exact ih _ (absorb_lt digest byte)

theorem fnv1a_lt (bytes : List Nat) : fnv1a bytes < 2 ^ 32 :=
  absorbAll_lt bytes offsetBasis (by decide)

end Hash.Fnv1a
