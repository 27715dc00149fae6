import ByFramework.Hash.Fnv1a
import ByFramework.WaitIndexCore

/-! The shard hash: signed 32-bit steps against the unsigned FNV-1a they stand for. -/

namespace ByFramework

open Hash.Fnv1a

/-! ### JavaScript's 32-bit operations -/

theorem toUint32_toInt32 (value : Int) : toUint32 (toInt32 value) = toUint32 value := by
  unfold toUint32 toInt32
  omega

theorem toUint32_mul (left right : Int) :
    toUint32 (left * right) = toUint32 (toUint32 left * toUint32 right) :=
  Int.mul_emod left right (2 ^ 32)

theorem toUint32_imul (left right : Int) :
    toUint32 (imul left right) = toUint32 (left * right) := by
  unfold imul
  rw [toUint32_toInt32, toUint32_mul, toUint32_toInt32, toUint32_toInt32, ← toUint32_mul]

theorem toUint32_natCast (value : Nat) : toUint32 value = ((value % 2 ^ 32 : Nat) : Int) := by
  unfold toUint32
  omega

theorem toUint32_bitXor (left right : Nat) (leftBound : left < 2 ^ 32)
    (rightBound : right < 2 ^ 32) :
    toUint32 (bitXor left right) = ((left ^^^ right : Nat) : Int) := by
  have both : left ^^^ right < 2 ^ 32 := Nat.xor_lt_two_pow leftBound rightBound
  have leftWord : (toUint32 left).toNat = left := by
    rw [toUint32_natCast, Int.toNat_natCast, Nat.mod_eq_of_lt leftBound]
  have rightWord : (toUint32 right).toNat = right := by
    rw [toUint32_natCast, Int.toNat_natCast, Nat.mod_eq_of_lt rightBound]
  unfold bitXor
  rw [toUint32_toInt32, leftWord, rightWord, toUint32_natCast, Nat.mod_eq_of_lt both]

/-! ### The loop -/

/-- The loop of `fnv1a32` over the bytes themselves. -/
def fnv1a32Loop (digest : Int) (bytes : List Nat) : Int :=
  bytes.foldl (fun (digest : Int) (byte : Nat) => toUint32 (imul (bitXor digest byte) 0x01000193))
    digest

theorem fnv1a32_step (digest byte : Nat) (bound : digest < 2 ^ 32) (small : byte < 256) :
    toUint32 (imul (bitXor digest byte) 0x01000193) = (absorb digest byte : Int) := by
  have primeWord : toUint32 0x01000193 = ((prime : Nat) : Int) := by decide
  rw [toUint32_imul, toUint32_mul, toUint32_bitXor digest byte bound (by omega), primeWord,
    ← Int.natCast_mul, toUint32_natCast]
  rfl

theorem fnv1a32Loop_eq (bytes : List Nat) (small : ∀ byte ∈ bytes, byte < 256) :
    ∀ digest : Nat, digest < 2 ^ 32 →
      fnv1a32Loop digest bytes = (absorbAll digest bytes : Int) := by
  induction bytes with
  | nil => intro digest _; rfl
  | cons byte rest ih =>
      intro digest bound
      have step := fnv1a32_step digest byte bound (small byte (by simp))
      have later := ih (fun other listed => small other (by simp [listed]))
        (absorb digest byte) (absorb_lt digest byte)
      unfold fnv1a32Loop at later ⊢
      rw [List.foldl_cons, step]
      exact later

theorem utf8Bytes_lt (text : String) : ∀ byte ∈ Hash.utf8Bytes text, byte < 256 := by
  intro byte listed
  unfold Hash.utf8Bytes at listed
  obtain ⟨char, _, spelled⟩ := List.mem_flatMap.mp listed
  obtain ⟨word, _, rfl⟩ := List.mem_map.mp spelled
  exact word.toNat_lt

theorem fnv1a32_eq (text : String) : fnv1a32 text = (fnv1a (Hash.utf8Bytes text) : Int) :=
  fnv1a32Loop_eq (Hash.utf8Bytes text) (utf8Bytes_lt text) offsetBasis (by decide)

theorem waitIndexShard_eq (sessionId : String) :
    waitIndexShard sessionId = fnv1a (Hash.utf8Bytes sessionId) % 16 := by
  unfold waitIndexShard
  rw [fnv1a32_eq]
  exact Int.toNat_natCast _

/-- Over every byte string the signed loop is reference FNV-1a, and so is every shard. -/
theorem shard_hash_reference :
    (∀ bytes : List UInt8, fnv1a32Loop 0x811c9dc5 (bytes.map UInt8.toNat) =
      (fnv1a (bytes.map UInt8.toNat) : Int)) ∧
    ∀ text : String,
      fnv1a32 text = fnv1a32Loop 0x811c9dc5 (Hash.utf8Bytes text) ∧
      fnv1a32 text = (fnv1a (Hash.utf8Bytes text) : Int) ∧
      0 ≤ fnv1a32 text ∧ fnv1a32 text < 2 ^ 32 ∧
      waitIndexShard text < 16 ∧
      waitIndexShard text = fnv1a (Hash.utf8Bytes text) % 16 ∧
      waitIndexKey text = .waitIndex (fnv1a (Hash.utf8Bytes text) % 16) := by
  constructor
  · intro bytes
    have small : ∀ byte ∈ bytes.map UInt8.toNat, byte < 256 := by
      intro byte listed
      obtain ⟨word, _, rfl⟩ := List.mem_map.mp listed
      exact word.toNat_lt
    exact fnv1a32Loop_eq (bytes.map UInt8.toNat) small offsetBasis (by decide)
  · intro text
    have bound := fnv1a_lt (Hash.utf8Bytes text)
    have hashed := fnv1a32_eq text
    have shard := waitIndexShard_eq text
    refine ⟨rfl, hashed, ?_, ?_, ?_, shard, ?_⟩
    · rw [hashed]
      omega
    · rw [hashed]
      omega
    · rw [shard]
      omega
    · unfold waitIndexKey
      rw [shard]

end ByFramework
