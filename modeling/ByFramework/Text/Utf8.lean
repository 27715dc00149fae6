import ByFramework.Hash.Sha1

/-!
Decoding UTF-8 by the decoder of the Encoding Standard: every longest malformed piece of the input
becomes one replacement character.
-/

namespace Text

/-- A character begun: what its bytes spell so far, how many are missing, and the next one's range. -/
structure Utf8Begun where
  codePoint : Nat
  needed : Nat
  lower : Nat
  upper : Nat
deriving DecidableEq, Repr

def replacementChar : Char := Char.ofNat 0xFFFD

def utf8Start (byte : Nat) : List Char × Option Utf8Begun :=
  if byte ≤ 0x7F then ([Char.ofNat byte], none)
  else if 0xC2 ≤ byte ∧ byte ≤ 0xDF then ([], some ⟨byte - 0xC0, 1, 0x80, 0xBF⟩)
  else if 0xE0 ≤ byte ∧ byte ≤ 0xEF then
    ([], some ⟨byte - 0xE0, 2, if byte = 0xE0 then 0xA0 else 0x80,
      if byte = 0xED then 0x9F else 0xBF⟩)
  else if 0xF0 ≤ byte ∧ byte ≤ 0xF4 then
    ([], some ⟨byte - 0xF0, 3, if byte = 0xF0 then 0x90 else 0x80,
      if byte = 0xF4 then 0x8F else 0xBF⟩)
  else ([replacementChar], none)

def utf8Continue (begun : Utf8Begun) (byte : Nat) : List Char × Option Utf8Begun :=
  if begun.lower ≤ byte ∧ byte ≤ begun.upper then
    let codePoint := begun.codePoint * 64 + (byte - 0x80)
    if begun.needed = 1 then ([Char.ofNat codePoint], none)
    else ([], some ⟨codePoint, begun.needed - 1, 0x80, 0xBF⟩)
  else
    let (started, next) := utf8Start byte
    (replacementChar :: started, next)

def utf8DecodeFrom : Option Utf8Begun → List Nat → List Char
  | none, [] => []
  | some _, [] => [replacementChar]
  | none, byte :: rest =>
      let (yielded, next) := utf8Start byte
      yielded ++ utf8DecodeFrom next rest
  | some begun, byte :: rest =>
      let (yielded, next) := utf8Continue begun byte
      yielded ++ utf8DecodeFrom next rest

def utf8Decode (bytes : List Nat) : List Char := utf8DecodeFrom none bytes

theorem utf8Continue_more (begun : Utf8Begun) (byte : Nat) (fits : begun.lower ≤ byte)
    (below : byte ≤ begun.upper) (more : begun.needed ≠ 1) :
    utf8Continue begun byte =
      ([], some ⟨begun.codePoint * 64 + (byte - 0x80), begun.needed - 1, 0x80, 0xBF⟩) := by
  unfold utf8Continue
  rw [if_pos ⟨fits, below⟩, if_neg more]

theorem utf8Continue_last (begun : Utf8Begun) (byte : Nat) (fits : begun.lower ≤ byte)
    (below : byte ≤ begun.upper) (last : begun.needed = 1) :
    utf8Continue begun byte =
      ([Char.ofNat (begun.codePoint * 64 + (byte - 0x80))], none) := by
  unfold utf8Continue
  rw [if_pos ⟨fits, below⟩, if_pos last]

theorem utf8DecodeFrom_two (point : Nat) (lower : 0x80 ≤ point) (upper : point ≤ 0x7FF)
    (rest : List Nat) :
    utf8DecodeFrom none ((point / 64 + 0xC0) :: (point % 64 + 0x80) :: rest) =
      Char.ofNat point :: utf8DecodeFrom none rest := by
  have started : utf8Start (point / 64 + 0xC0) = ([], some ⟨point / 64, 1, 0x80, 0xBF⟩) := by
    unfold utf8Start
    rw [if_neg (by omega), if_pos (by omega)]
    simp
  have last := utf8Continue_last ⟨point / 64, 1, 0x80, 0xBF⟩ (point % 64 + 0x80)
    (by simp) (by simp; omega) rfl
  have spelled : point / 64 * 64 + (point % 64 + 0x80 - 0x80) = point := by omega
  simp only [utf8DecodeFrom, started, last, spelled, List.nil_append, List.cons_append]

theorem utf8DecodeFrom_three (point : Nat) (lower : 0x800 ≤ point) (upper : point ≤ 0xFFFF)
    (scalar : point < 0xD800 ∨ 0xDFFF < point) (rest : List Nat) :
    utf8DecodeFrom none
        ((point / 4096 + 0xE0) :: (point / 64 % 64 + 0x80) :: (point % 64 + 0x80) :: rest) =
      Char.ofNat point :: utf8DecodeFrom none rest := by
  have started : utf8Start (point / 4096 + 0xE0) =
      ([], some ⟨point / 4096, 2, if point / 4096 + 0xE0 = 0xE0 then 0xA0 else 0x80,
        if point / 4096 + 0xE0 = 0xED then 0x9F else 0xBF⟩) := by
    unfold utf8Start
    rw [if_neg (by omega), if_neg (by omega), if_pos (by omega)]
    simp
  have more := utf8Continue_more ⟨point / 4096, 2, if point / 4096 + 0xE0 = 0xE0 then 0xA0 else 0x80,
      if point / 4096 + 0xE0 = 0xED then 0x9F else 0xBF⟩ (point / 64 % 64 + 0x80)
    (by dsimp only; split <;> omega) (by dsimp only; split <;> omega) (by simp)
  have last := utf8Continue_last
    ⟨point / 4096 * 64 + (point / 64 % 64 + 0x80 - 0x80), 1, 0x80, 0xBF⟩ (point % 64 + 0x80)
    (by simp) (by simp; omega) rfl
  have spelled : (point / 4096 * 64 + (point / 64 % 64 + 0x80 - 0x80)) * 64 +
      (point % 64 + 0x80 - 0x80) = point := by omega
  simp only [utf8DecodeFrom, started, more, last, spelled, List.nil_append, List.cons_append]

theorem utf8DecodeFrom_four (point : Nat) (lower : 0x10000 ≤ point) (upper : point < 0x110000)
    (rest : List Nat) :
    utf8DecodeFrom none ((point / 262144 + 0xF0) :: (point / 4096 % 64 + 0x80) ::
        (point / 64 % 64 + 0x80) :: (point % 64 + 0x80) :: rest) =
      Char.ofNat point :: utf8DecodeFrom none rest := by
  have started : utf8Start (point / 262144 + 0xF0) =
      ([], some ⟨point / 262144, 3, if point / 262144 + 0xF0 = 0xF0 then 0x90 else 0x80,
        if point / 262144 + 0xF0 = 0xF4 then 0x8F else 0xBF⟩) := by
    unfold utf8Start
    rw [if_neg (by omega), if_neg (by omega), if_neg (by omega), if_pos (by omega)]
    simp
  have more := utf8Continue_more
    ⟨point / 262144, 3, if point / 262144 + 0xF0 = 0xF0 then 0x90 else 0x80,
      if point / 262144 + 0xF0 = 0xF4 then 0x8F else 0xBF⟩ (point / 4096 % 64 + 0x80)
    (by dsimp only; split <;> omega) (by dsimp only; split <;> omega) (by simp)
  have again := utf8Continue_more
    ⟨point / 262144 * 64 + (point / 4096 % 64 + 0x80 - 0x80), 2, 0x80, 0xBF⟩
    (point / 64 % 64 + 0x80) (by simp) (by simp; omega) (by simp)
  have last := utf8Continue_last
    ⟨(point / 262144 * 64 + (point / 4096 % 64 + 0x80 - 0x80)) * 64 +
      (point / 64 % 64 + 0x80 - 0x80), 1, 0x80, 0xBF⟩ (point % 64 + 0x80)
    (by simp) (by simp; omega) rfl
  have spelled : ((point / 262144 * 64 + (point / 4096 % 64 + 0x80 - 0x80)) * 64 +
      (point / 64 % 64 + 0x80 - 0x80)) * 64 + (point % 64 + 0x80 - 0x80) = point := by omega
  simp only [utf8DecodeFrom, started, more, again, last, spelled, List.nil_append,
    List.cons_append]

theorem utf8DecodeFrom_char (char : Char) (rest : List Nat) :
    utf8DecodeFrom none ((String.utf8EncodeChar char).map UInt8.toNat ++ rest) =
      char :: utf8DecodeFrom none rest := by
  have valid := char.valid
  have whole : Char.ofNat char.toNat = char := Char.ofNat_toNat char
  change char.toNat < 0xD800 ∨ 0xDFFF < char.toNat ∧ char.toNat < 0x110000 at valid
  unfold String.utf8EncodeChar
  simp only [Char.toNat_val]
  generalize char.toNat = point at valid whole ⊢
  rw [← whole]
  split
  · have small : point % 256 = point := Nat.mod_eq_of_lt (by omega)
    simp only [List.map_cons, List.map_nil, UInt8.toNat_ofNat', Nat.reducePow, small,
      List.cons_append, List.nil_append, utf8DecodeFrom, utf8Start]
    rw [if_pos (by omega)]
    rfl
  · split
    · have first : (point / 64 % 32 + 0xC0) % 256 = point / 64 + 0xC0 := by omega
      have second : (point % 64 + 0x80) % 256 = point % 64 + 0x80 := by omega
      simp only [List.map_cons, List.map_nil, UInt8.toNat_ofNat', Nat.reducePow, first, second,
        List.cons_append, List.nil_append]
      exact utf8DecodeFrom_two point (by omega) (by omega) rest
    · split
      · have first : (point / 4096 % 16 + 0xE0) % 256 = point / 4096 + 0xE0 := by omega
        have second : (point / 64 % 64 + 0x80) % 256 = point / 64 % 64 + 0x80 := by omega
        have third : (point % 64 + 0x80) % 256 = point % 64 + 0x80 := by omega
        simp only [List.map_cons, List.map_nil, UInt8.toNat_ofNat', Nat.reducePow, first, second,
          third, List.cons_append, List.nil_append]
        exact utf8DecodeFrom_three point (by omega) (by omega) (by omega) rest
      · have first : (point / 262144 % 8 + 0xF0) % 256 = point / 262144 + 0xF0 := by omega
        have second : (point / 4096 % 64 + 0x80) % 256 = point / 4096 % 64 + 0x80 := by omega
        have third : (point / 64 % 64 + 0x80) % 256 = point / 64 % 64 + 0x80 := by omega
        have fourth : (point % 64 + 0x80) % 256 = point % 64 + 0x80 := by omega
        simp only [List.map_cons, List.map_nil, UInt8.toNat_ofNat', Nat.reducePow, first, second,
          third, fourth, List.cons_append, List.nil_append]
        exact utf8DecodeFrom_four point (by omega) (by omega) rest

theorem utf8Decode_utf8Bytes (text : String) :
    utf8Decode (Hash.utf8Bytes text) = text.toList := by
  unfold utf8Decode Hash.utf8Bytes
  induction text.toList with
  | nil => rfl
  | cons char rest ih => rw [List.flatMap_cons, utf8DecodeFrom_char, ih]

end Text
