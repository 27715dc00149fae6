import Mathlib.Tactic.Ring
import ByFramework.Hash.Sha1

/-! Bytes and numbers spelled in hexadecimal, and what reading them back gives. -/

namespace Text

open Hash.Sha1

def hexValue (char : Char) : Option Nat :=
  if 48 ≤ char.toNat ∧ char.toNat ≤ 57 then some (char.toNat - 48)
  else if 65 ≤ char.toNat ∧ char.toNat ≤ 70 then some (char.toNat - 55)
  else if 97 ≤ char.toNat ∧ char.toNat ≤ 102 then some (char.toNat - 87)
  else none

def isHexDigit (char : Char) : Bool := (hexValue char).isSome

/-- The bytes two digits at a time, up to the first pair that is not hexadecimal. -/
def bytesOfHex : List Char → List Nat
  | high :: low :: rest =>
      match hexValue high, hexValue low with
      | some first, some second => (16 * first + second) :: bytesOfHex rest
      | _, _ => []
  | _ => []

def hexOfBytes (bytes : List Nat) : List Char :=
  bytes.flatMap fun byte => [hexDigit (byte / 16), hexDigit (byte % 16)]

/-- The number a run of digits spells after `known`. -/
def hexNumberFrom : Nat → List Char → Option Nat
  | known, [] => some known
  | known, char :: rest =>
      match hexValue char with
      | some digit => hexNumberFrom (16 * known + digit) rest
      | none => none

def hexNumber : List Char → Option Nat
  | [] => none
  | char :: rest => hexNumberFrom 0 (char :: rest)

def padStart (length : Nat) (fill : Char) (text : List Char) : List Char :=
  List.replicate (length - text.length) fill ++ text

def bigEndianValue (bytes : List Nat) : Nat :=
  bytes.foldl (fun known byte => 256 * known + byte) 0

theorem hexValue_hexDigit (digit : Nat) (bound : digit < 16) :
    hexValue (hexDigit digit) = some digit := by
  have checked : ∀ digit, digit < 16 → hexValue (hexDigit digit) = some digit := by decide
  exact checked digit bound

theorem hexDigit_eq_digitChar (digit : Nat) (bound : digit < 16) :
    hexDigit digit = digit.digitChar := by
  have checked : ∀ digit, digit < 16 → hexDigit digit = Nat.digitChar digit := by decide
  exact checked digit bound

theorem hexValue_lt {char : Char} {digit : Nat} (spelled : hexValue char = some digit) :
    digit < 16 := by
  unfold hexValue at spelled
  split at spelled
  · cases spelled
    omega
  · split at spelled
    · cases spelled
      omega
    · split at spelled
      · cases spelled
        omega
      · cases spelled

theorem bytesOfHex_lt : ∀ (text : List Char), ∀ byte ∈ bytesOfHex text, byte < 256
  | [], byte, listed => nomatch listed
  | [_], byte, listed => nomatch listed
  | high :: low :: rest, byte, listed => by
      unfold bytesOfHex at listed
      split at listed
      · rename_i first second highValue lowValue
        rcases List.mem_cons.mp listed with here | later
        · have firstBound := hexValue_lt highValue
          have secondBound := hexValue_lt lowValue
          omega
        · exact bytesOfHex_lt rest byte later
      · cases listed

theorem hexNumberFrom_hexOfBytes (bytes : List Nat) (small : ∀ byte ∈ bytes, byte < 256) :
    ∀ known, hexNumberFrom known (hexOfBytes bytes) =
      some (bytes.foldl (fun known byte => 256 * known + byte) known) := by
  induction bytes with
  | nil => intro known; rfl
  | cons byte rest ih =>
      intro known
      have bound : byte < 256 := small byte (by simp)
      have high : hexValue (hexDigit (byte / 16)) = some (byte / 16) :=
        hexValue_hexDigit _ (by omega)
      have low : hexValue (hexDigit (byte % 16)) = some (byte % 16) :=
        hexValue_hexDigit _ (by omega)
      have joined : 16 * (16 * known + byte / 16) + byte % 16 = 256 * known + byte := by omega
      have later := ih (fun other listed => small other (by simp [listed])) (256 * known + byte)
      unfold hexOfBytes at later
      simp only [hexOfBytes, List.flatMap_cons, List.cons_append, List.nil_append, hexNumberFrom,
        high, low, joined, later, List.foldl_cons]

theorem isHexDigit_hexOfBytes {bytes : List Nat} (small : ∀ byte ∈ bytes, byte < 256) :
    ∀ char ∈ hexOfBytes bytes, isHexDigit char = true := by
  intro char listed
  obtain ⟨byte, held, spelled⟩ := List.mem_flatMap.mp listed
  have bound := small byte held
  have digit : ∃ value, value < 16 ∧ char = hexDigit value := by
    rcases List.mem_cons.mp spelled with high | rest
    · exact ⟨byte / 16, by omega, high⟩
    · exact ⟨byte % 16, by omega, List.mem_singleton.mp rest⟩
  obtain ⟨value, below, rfl⟩ := digit
  rw [isHexDigit, hexValue_hexDigit value below]
  rfl

theorem length_hexOfBytes (bytes : List Nat) : (hexOfBytes bytes).length = 2 * bytes.length := by
  induction bytes with
  | nil => rfl
  | cons byte rest ih =>
      have one : (hexOfBytes (byte :: rest)).length = 2 + (hexOfBytes rest).length := by
        simp [hexOfBytes]
        omega
      rw [one, ih, List.length_cons]
      omega

theorem bytesOfHex_hexOfBytes {bytes : List Nat} (small : ∀ byte ∈ bytes, byte < 256) :
    bytesOfHex (hexOfBytes bytes) = bytes := by
  induction bytes with
  | nil => rfl
  | cons byte rest ih =>
      have bound := small byte List.mem_cons_self
      have behind := ih fun other listed => small other (List.mem_cons_of_mem _ listed)
      change bytesOfHex (hexDigit (byte / 16) :: hexDigit (byte % 16) :: hexOfBytes rest) = _
      rw [bytesOfHex, hexValue_hexDigit _ (by omega), hexValue_hexDigit _ (by omega)]
      dsimp only
      rw [behind]
      have whole : 16 * (byte / 16) + byte % 16 = byte := by omega
      rw [whole]

theorem hexNumber_hexOfBytes (bytes : List Nat) (small : ∀ byte ∈ bytes, byte < 256)
    (some_bytes : bytes ≠ []) : hexNumber (hexOfBytes bytes) = some (bigEndianValue bytes) := by
  cases bytes with
  | nil => exact absurd rfl some_bytes
  | cons byte rest => exact hexNumberFrom_hexOfBytes (byte :: rest) small 0

theorem hexDigits_last (count : Nat) : ∀ number,
    hexDigits (count + 1) number = hexDigits count (number / 16) ++ [hexDigit (number % 16)] := by
  induction count with
  | zero =>
      intro number
      simp [hexDigits]
  | succ count ih =>
      intro number
      have shifted : number / 16 ^ (count + 1) = number / 16 / 16 ^ count := by
        rw [Nat.div_div_eq_div_mul, pow_succ, Nat.mul_comm]
      rw [hexDigits, ih number, hexDigits, shifted]
      rfl

theorem hexDigits_zero (count : Nat) : hexDigits count 0 = List.replicate count '0' := by
  induction count with
  | zero => rfl
  | succ count ih =>
      rw [hexDigits, ih, List.replicate_succ]
      simp
      rfl

theorem padStart_toDigits (count : Nat) : ∀ number, number < 16 ^ (count + 1) →
    padStart (count + 1) '0' (Nat.toDigits 16 number) = hexDigits (count + 1) number := by
  induction count with
  | zero =>
      intro number bound
      have small : number < 16 := by simpa using bound
      rw [Nat.toDigits_of_lt_base small]
      simp [padStart, hexDigits, Nat.mod_eq_of_lt small, hexDigit_eq_digitChar number small]
  | succ count ih =>
      intro number bound
      rw [hexDigits_last]
      by_cases small : number < 16
      · rw [Nat.toDigits_of_lt_base small, Nat.div_eq_of_lt small, hexDigits_zero,
          Nat.mod_eq_of_lt small, hexDigit_eq_digitChar number small]
        simp [padStart]
      · have front : number / 16 < 16 ^ (count + 1) := by
          rw [Nat.div_lt_iff_lt_mul (by omega), ← pow_succ]
          exact bound
        have last : number % 16 < 16 := Nat.mod_lt _ (by omega)
        rw [Nat.toDigits_of_base_le (by omega) (by omega), ← ih _ front,
          hexDigit_eq_digitChar _ last]
        simp [padStart]

theorem bytes_pow (count : Nat) : 256 ^ count = 16 ^ (2 * count) := by
  have square : 256 = 16 ^ 2 := rfl
  rw [square, pow_mul]

theorem bigEndian_lt (count number : Nat) : ∀ byte ∈ bigEndian count number, byte < 256 := by
  induction count with
  | zero => intro byte listed; cases listed
  | succ count ih =>
      intro byte listed
      rcases List.mem_cons.mp listed with first | rest
      · rw [first]
        exact Nat.mod_lt _ (by decide)
      · exact ih byte rest

theorem bytesOfHex_hexDigits (count number : Nat) :
    bytesOfHex (hexDigits (2 * count) number) = bigEndian count number := by
  induction count with
  | zero => rfl
  | succ count ih =>
      have places : 2 * (count + 1) = 2 * count + 1 + 1 := by omega
      have shifted : number / 16 ^ (2 * count + 1) = number / 16 ^ (2 * count) / 16 := by
        rw [Nat.div_div_eq_div_mul, pow_succ]
      have joined : 16 * (number / 16 ^ (2 * count + 1) % 16) + number / 16 ^ (2 * count) % 16 =
          number / 256 ^ count % 256 := by
        rw [bytes_pow, shifted]
        omega
      have high := hexValue_hexDigit (number / 16 ^ (2 * count + 1) % 16) (Nat.mod_lt _ (by omega))
      have low := hexValue_hexDigit (number / 16 ^ (2 * count) % 16) (Nat.mod_lt _ (by omega))
      rw [places, hexDigits, hexDigits, bytesOfHex, high, low, bigEndian, ← ih, ← joined]

theorem bytesOfHex_padStart (count number : Nat) (bound : number < 256 ^ (count + 1)) :
    bytesOfHex (padStart (2 * (count + 1)) '0' (Nat.toDigits 16 number)) =
      bigEndian (count + 1) number := by
  have places : 2 * (count + 1) = 2 * count + 1 + 1 := by omega
  rw [bytes_pow, places] at bound
  rw [← bytesOfHex_hexDigits, places, padStart_toDigits _ _ bound]

end Text
