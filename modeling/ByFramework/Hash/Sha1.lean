import Mathlib.Algebra.Group.Nat.Defs

/-! SHA-1 over the UTF-8 bytes of a string, written as a lowercase hexadecimal digest. -/

namespace Hash

def utf8Bytes (text : String) : List Nat :=
  text.toList.flatMap fun char => (String.utf8EncodeChar char).map UInt8.toNat

namespace Sha1

def wordSize : Nat := 2 ^ 32

def rotateLeft (word count : Nat) : Nat :=
  (word <<< count ||| word >>> (32 - count)) % wordSize

/-- The big-endian bytes of a number, `count` of them. -/
def bigEndian : Nat → Nat → List Nat
  | 0, _ => []
  | count + 1, number => (number / 256 ^ count) % 256 :: bigEndian count number

def pad (bytes : List Nat) : List Nat :=
  let zeros := (119 - bytes.length % 64) % 64
  bytes ++ 128 :: List.replicate zeros 0 ++ bigEndian 8 (8 * bytes.length)

def words : Nat → List Nat → List Nat
  | count + 1, first :: second :: third :: fourth :: rest =>
      (first * 256 ^ 3 + second * 256 ^ 2 + third * 256 + fourth) :: words count rest
  | _, _ => []

/-- Extend a block's sixteen words, latest first, by `count` further words. -/
def extend : Nat → List Nat → List Nat
  | 0, latest => latest
  | count + 1, latest =>
      let word := latest.getD 2 0 ^^^ latest.getD 7 0 ^^^ latest.getD 13 0 ^^^ latest.getD 15 0
      extend count (rotateLeft word 1 :: latest)

structure State where
  a : Nat
  b : Nat
  c : Nat
  d : Nat
  e : Nat

def State.initial : State := ⟨0x67452301, 0xEFCDAB89, 0x98BADCFE, 0x10325476, 0xC3D2E1F0⟩

def complement (word : Nat) : Nat := wordSize - 1 - word

def mix (step : Nat) (state : State) : Nat :=
  if step < 20 then state.b &&& state.c ||| complement state.b &&& state.d
  else if step < 40 then state.b ^^^ state.c ^^^ state.d
  else if step < 60 then
    state.b &&& state.c ||| state.b &&& state.d ||| state.c &&& state.d
  else state.b ^^^ state.c ^^^ state.d

def constant (step : Nat) : Nat :=
  if step < 20 then 0x5A827999
  else if step < 40 then 0x6ED9EBA1
  else if step < 60 then 0x8F1BBCDC
  else 0xCA62C1D6

def rounds : Nat → List Nat → State → State
  | _, [], state => state
  | step, word :: rest, state =>
      let next := (rotateLeft state.a 5 + mix step state + state.e + constant step + word) % wordSize
      rounds (step + 1) rest ⟨next, state.a, rotateLeft state.b 30, state.c, state.d⟩

def compress (state : State) (block : List Nat) : State :=
  let last := rounds 0 (extend 64 (words 16 block).reverse).reverse state
  ⟨(state.a + last.a) % wordSize, (state.b + last.b) % wordSize, (state.c + last.c) % wordSize,
    (state.d + last.d) % wordSize, (state.e + last.e) % wordSize⟩

def blocks : Nat → List Nat → State → State
  | 0, _, state => state
  | count + 1, bytes, state => blocks count (bytes.drop 64) (compress state (bytes.take 64))

def hexDigit (value : Nat) : Char := "0123456789abcdef".toList.getD value '0'

/-- The hexadecimal digits of a number, `count` of them. -/
def hexDigits : Nat → Nat → List Char
  | 0, _ => []
  | count + 1, number => hexDigit (number / 16 ^ count % 16) :: hexDigits count number

end Sha1

open Sha1 in
def sha1Hex (text : String) : String :=
  let padded := pad (utf8Bytes text)
  let state := blocks (padded.length / 64) padded State.initial
  String.ofList (hexDigits 8 state.a ++ hexDigits 8 state.b ++ hexDigits 8 state.c ++
    hexDigits 8 state.d ++ hexDigits 8 state.e)

theorem Sha1.length_hexDigits (count number : Nat) : (hexDigits count number).length = count := by
  induction count with
  | zero => rfl
  | succ count ih => rw [hexDigits, List.length_cons, ih]

theorem Sha1.hexDigits_lower (count number : Nat) :
    ∀ char ∈ hexDigits count number, char ∈ "0123456789abcdef".toList := by
  have digit : ∀ value < 16, hexDigit value ∈ "0123456789abcdef".toList := by decide
  induction count with
  | zero => intro char listed; cases listed
  | succ count ih =>
      intro char listed
      rcases List.mem_cons.mp listed with first | rest
      · rw [first]
        exact digit _ (Nat.mod_lt _ (by decide))
      · exact ih char rest

theorem sha1Hex_digits (text : String) :
    (sha1Hex text).toList.length = 40 ∧
      ∀ char ∈ (sha1Hex text).toList, char ∈ "0123456789abcdef".toList := by
  unfold sha1Hex
  dsimp only
  rw [String.toList_ofList]
  refine ⟨by simp only [List.length_append, Sha1.length_hexDigits], ?_⟩
  simp only [List.mem_append, or_imp, forall_and]
  exact ⟨⟨⟨⟨Sha1.hexDigits_lower 8 _, Sha1.hexDigits_lower 8 _⟩, Sha1.hexDigits_lower 8 _⟩,
    Sha1.hexDigits_lower 8 _⟩, Sha1.hexDigits_lower 8 _⟩

example : sha1Hex "abc" = "a9993e364706816aba3e25717850c26c9cd0d89d" := by decide +kernel

end Hash
