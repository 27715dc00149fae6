import ByFramework.Hash.Sha1

/-! MD5 over the UTF-8 bytes of a string, written as a lowercase hexadecimal digest. -/

namespace Hash

namespace Md5

open Sha1 (wordSize rotateLeft complement hexDigits)

/-- The little-endian bytes of a number, `count` of them. -/
def littleEndian : Nat → Nat → List Nat
  | 0, _ => []
  | count + 1, number => number % 256 :: littleEndian count (number / 256)

def pad (bytes : List Nat) : List Nat :=
  let zeros := (119 - bytes.length % 64) % 64
  bytes ++ 128 :: List.replicate zeros 0 ++ littleEndian 8 (8 * bytes.length)

def words : Nat → List Nat → List Nat
  | count + 1, first :: second :: third :: fourth :: rest =>
      (first + second * 256 + third * 256 ^ 2 + fourth * 256 ^ 3) :: words count rest
  | _, _ => []

structure State where
  a : Nat
  b : Nat
  c : Nat
  d : Nat

def State.initial : State := ⟨0x67452301, 0xefcdab89, 0x98badcfe, 0x10325476⟩

/-- The integer parts of `2 ^ 32 * |sin step|` for the steps from 1 on. -/
def sines : List Nat :=
  [0xd76aa478, 0xe8c7b756, 0x242070db, 0xc1bdceee, 0xf57c0faf, 0x4787c62a, 0xa8304613, 0xfd469501,
    0x698098d8, 0x8b44f7af, 0xffff5bb1, 0x895cd7be, 0x6b901122, 0xfd987193, 0xa679438e, 0x49b40821,
    0xf61e2562, 0xc040b340, 0x265e5a51, 0xe9b6c7aa, 0xd62f105d, 0x02441453, 0xd8a1e681, 0xe7d3fbc8,
    0x21e1cde6, 0xc33707d6, 0xf4d50d87, 0x455a14ed, 0xa9e3e905, 0xfcefa3f8, 0x676f02d9, 0x8d2a4c8a,
    0xfffa3942, 0x8771f681, 0x6d9d6122, 0xfde5380c, 0xa4beea44, 0x4bdecfa9, 0xf6bb4b60, 0xbebfbc70,
    0x289b7ec6, 0xeaa127fa, 0xd4ef3085, 0x04881d05, 0xd9d4d039, 0xe6db99e5, 0x1fa27cf8, 0xc4ac5665,
    0xf4292244, 0x432aff97, 0xab9423a7, 0xfc93a039, 0x655b59c3, 0x8f0ccc92, 0xffeff47d, 0x85845dd1,
    0x6fa87e4f, 0xfe2ce6e0, 0xa3014314, 0x4e0811a1, 0xf7537e82, 0xbd3af235, 0x2ad7d2bb, 0xeb86d391]

def shift (step : Nat) : Nat :=
  if step < 16 then [7, 12, 17, 22].getD (step % 4) 0
  else if step < 32 then [5, 9, 14, 20].getD (step % 4) 0
  else if step < 48 then [4, 11, 16, 23].getD (step % 4) 0
  else [6, 10, 15, 21].getD (step % 4) 0

def mix (step : Nat) (state : State) : Nat :=
  if step < 16 then state.b &&& state.c ||| complement state.b &&& state.d
  else if step < 32 then state.d &&& state.b ||| complement state.d &&& state.c
  else if step < 48 then state.b ^^^ state.c ^^^ state.d
  else state.c ^^^ (state.b ||| complement state.d)

def wordAt (step : Nat) : Nat :=
  if step < 16 then step
  else if step < 32 then (5 * step + 1) % 16
  else if step < 48 then (3 * step + 5) % 16
  else 7 * step % 16

def rounds (block : List Nat) : Nat → List Nat → State → State
  | _, [], state => state
  | step, sine :: rest, state =>
      let sum := (state.a + mix step state + sine + block.getD (wordAt step) 0) % wordSize
      let next := (state.b + rotateLeft sum (shift step)) % wordSize
      rounds block (step + 1) rest ⟨state.d, next, state.b, state.c⟩

def compress (state : State) (block : List Nat) : State :=
  let last := rounds (words 16 block) 0 sines state
  ⟨(state.a + last.a) % wordSize, (state.b + last.b) % wordSize, (state.c + last.c) % wordSize,
    (state.d + last.d) % wordSize⟩

def blocks : Nat → List Nat → State → State
  | 0, _, state => state
  | count + 1, bytes, state => blocks count (bytes.drop 64) (compress state (bytes.take 64))

def hexWord (word : Nat) : List Char :=
  (littleEndian 4 word).flatMap (hexDigits 2)

end Md5

open Md5 in
def md5Hex (text : String) : String :=
  let padded := pad (utf8Bytes text)
  let state := blocks (padded.length / 64) padded State.initial
  String.ofList (hexWord state.a ++ hexWord state.b ++ hexWord state.c ++ hexWord state.d)

example : md5Hex "abc" = "900150983cd24fb0d6963f7d28e17f72" := by decide +kernel

end Hash
