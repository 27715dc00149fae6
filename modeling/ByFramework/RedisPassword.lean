import ByFramework.RedisPasswordCore

/-! Which `{cipher}` values decrypt, and to what. -/

namespace ByFramework.RedisPassword

open Text Hash.Sha1

/-- Each turn takes the lowest bit off the exponent and keeps the power that is left to compute. -/
theorem modPowLoop_eq (modulus : Nat) : ∀ e result b, result < modulus →
    modPowLoop modulus result b e = result * b ^ e % modulus := by
  intro e
  induction e using Nat.strongRecOn with
  | ind e ih =>
      intro result b reduced
      unfold modPowLoop
      by_cases running : 0 < e
      · rw [if_pos running]
        have half : e >>> 1 = e / 2 := Nat.shiftRight_eq_div_pow e 1
        have lowest : e &&& 1 = e % 2 := Nat.and_one_is_mod e
        have positive : 0 < modulus := by omega
        have squares : ∀ known, known * (b * b % modulus) ^ (e / 2) % modulus =
            known * b ^ (2 * (e / 2)) % modulus := by
          intro known
          rw [Nat.mul_mod, ← Nat.pow_mod, ← Nat.mul_mod, ← pow_two, ← pow_mul]
        rw [half, lowest]
        by_cases odd : e % 2 ≠ 0
        · rw [if_pos odd, ih (e / 2) (by omega) _ _ (Nat.mod_lt _ positive), squares]
          have split : e = 2 * (e / 2) + 1 := by omega
          calc
            result * b % modulus * b ^ (2 * (e / 2)) % modulus
                = result * b * b ^ (2 * (e / 2)) % modulus := Nat.mod_mul_mod _ _ _
            _ = result * b ^ (2 * (e / 2) + 1) % modulus := by
                rw [pow_succ, Nat.mul_assoc, Nat.mul_comm b]
            _ = result * b ^ e % modulus := by rw [← split]
        · rw [if_neg odd, ih (e / 2) (by omega) _ _ reduced, squares]
          have split : e = 2 * (e / 2) := by omega
          rw [← split]
      · have done : e = 0 := by omega
        rw [if_neg running, done, pow_zero, Nat.mul_one, Nat.mod_eq_of_lt reduced]

/-- The rounds of `modPowLoop`, some more than there are bits. -/
def modPowRounds (modulus : Nat) : Nat → Nat → Nat → Nat → Nat
  | 0, result, _, _ => result
  | rounds + 1, result, b, e =>
      modPowRounds modulus rounds (if e &&& 1 ≠ 0 then result * b % modulus else result)
        (b * b % modulus) (e >>> 1)

theorem modPowLoop_rounds {modulus rounds result b e : Nat} (enough : e < 2 ^ rounds) :
    modPowLoop modulus result b e = modPowRounds modulus rounds result b e := by
  have stays (result b : Nat) : modPowLoop modulus result b 0 = result := by
    rw [modPowLoop, if_neg (Nat.lt_irrefl 0)]
  induction rounds generalizing result b e with
  | zero =>
      obtain rfl : e = 0 := by simpa using enough
      exact stays result b
  | succ rounds ih =>
      have fewer : e >>> 1 < 2 ^ rounds := by
        rw [Nat.shiftRight_eq_div_pow]
        omega
      rw [modPowRounds, ← ih fewer, modPowLoop]
      split
      · rfl
      · obtain rfl : e = 0 := by omega
        exact (stays result _).symm

theorem modPow_eq (base exponent modulus : Nat) (large : 1 < modulus) :
    modPow base exponent modulus = base ^ exponent % modulus := by
  unfold modPow
  rw [modPowLoop_eq modulus exponent 1 _ large, Nat.one_mul, ← Nat.pow_mod]

theorem modPow_eq_small : 1 < 19 ∧ modPow 5 117 19 = 5 ^ 117 % 19 :=
  ⟨by omega, modPow_eq 5 117 19 (by omega)⟩

def HexText (text : String) : Prop := ∀ char ∈ text.toList, isHexDigit char = true

instance (text : String) : Decidable (HexText text) :=
  List.decidableBAll (fun char => isHexDigit char = true) text.toList

theorem ascii_of_hex {char : Char} (digit : isHexDigit char = true) : char.toNat ≤ 102 := by
  unfold isHexDigit hexValue at digit
  split at digit
  · omega
  · split at digit
    · omega
    · split at digit
      · omega
      · cases digit

theorem ascToBcd_hex {char : Char} {value : Nat} (spelled : hexValue char = some value) :
    ascToBcd (some char.toNat) = value := by
  unfold hexValue at spelled
  unfold ascToBcd
  split at spelled
  · rename_i decimal
    cases spelled
    exact if_pos decimal
  · rename_i notDecimal
    split at spelled
    · rename_i upper
      cases spelled
      simp only [if_neg notDecimal, if_pos upper]
      omega
    · rename_i notUpper
      split at spelled
      · rename_i lower
        cases spelled
        simp only [if_neg notDecimal, if_neg notUpper, if_pos lower]
        omega
      · cases spelled

theorem utf8Bytes_hex {text : String} (digits : HexText text) :
    Hash.utf8Bytes text = text.toList.map Char.toNat := by
  unfold HexText at digits
  unfold Hash.utf8Bytes
  revert digits
  induction text.toList with
  | nil => intro _; rfl
  | cons char rest ih =>
      intro digits
      have small := ascii_of_hex (digits char (by simp))
      have encoded : (String.utf8EncodeChar char).map UInt8.toNat = [char.toNat] := by
        unfold String.utf8EncodeChar
        simp only [Char.toNat_val]
        rw [if_pos (by omega)]
        simp
        omega
      rw [List.flatMap_cons, encoded, ih fun other listed => digits other (by simp [listed])]
      rfl

theorem length_utf16Units_hex {text : String} (digits : HexText text) :
    (utf16Units text).length = text.toList.length := by
  unfold HexText at digits
  unfold utf16Units
  revert digits
  induction text.toList with
  | nil => intro _; rfl
  | cons char rest ih =>
      intro digits
      have small := ascii_of_hex (digits char (by simp))
      have later := ih fun other listed => digits other (by simp [listed])
      rw [List.flatMap_cons, if_pos (by omega), List.length_append, later]
      simp
      omega

theorem packed (high low : Nat) (highBound : high < 16) (lowBound : low < 16) :
    (low + high <<< 4) &&& 0xff = 16 * high + low := by
  have shifted : high <<< 4 = high * 16 := Nat.shiftLeft_eq high 4
  have masked := Nat.and_two_pow_sub_one_eq_mod (low + high * 16) 8
  rw [shifted]
  simp only [Nat.reducePow, Nat.reduceSub] at masked
  omega

theorem asciiToBcdLoop_even (ascii : List Nat) (length : Nat) : ∀ rounds rest done read,
    (∀ char ∈ rest, isHexDigit char = true) → rest.length = 2 * rounds →
    ascii = read ++ rest.map Char.toNat → read.length = 2 * done.length →
    length = ascii.length →
    asciiToBcdLoop ascii length rounds done.length read.length
      (done ++ List.replicate rounds 0) = .ok (done ++ bytesOfHex rest) := by
  intro rounds
  induction rounds with
  | zero =>
      intro rest done read _ left _ _ _
      have none_left : rest = [] := List.length_eq_zero_iff.mp (by omega)
      subst none_left
      simp [asciiToBcdLoop, bytesOfHex]
  | succ rounds ih =>
      intro rest done read digits left spelled position whole
      rcases rest with _ | ⟨high, _ | ⟨low, rest⟩⟩
      · simp at left
      · simp at left
        omega
      obtain ⟨first, highValue⟩ := Option.isSome_iff_exists.mp (digits high (by simp))
      obtain ⟨second, lowValue⟩ := Option.isSome_iff_exists.mp (digits low (by simp))
      have room : ¬ (done ++ List.replicate (rounds + 1) 0).length ≤ done.length := by
        simp
      have inside : ¬ length ≤ read.length + 1 := by
        rw [whole, spelled]
        simp
      have atHigh : ascii[read.length]? = some high.toNat := by
        rw [spelled]
        simp
      have atLow : ascii[read.length + 1]? = some low.toNat := by
        rw [spelled]
        simp
      have written : (done ++ List.replicate (rounds + 1) 0).set done.length
          (16 * first + second) = (done ++ [16 * first + second]) ++ List.replicate rounds 0 := by
        simp [List.replicate_succ]
      have further := ih rest (done ++ [16 * first + second]) (read ++ [high.toNat, low.toNat])
        (fun char listed => digits char (by simp [listed]))
        (by simp only [List.length_cons] at left; omega)
        (by rw [spelled]; simp)
        (by simp only [List.length_append, List.length_cons, List.length_nil]; omega)
        whole
      simp only [List.length_append, List.length_cons, List.length_nil, Nat.zero_add] at further
      rw [asciiToBcdLoop, if_neg room, if_neg inside, atHigh, atLow, ascToBcd_hex highValue,
        ascToBcd_hex lowValue]
      dsimp only
      rw [packed first second (hexValue_lt highValue) (hexValue_lt lowValue), written, further,
        bytesOfHex, highValue, lowValue, List.append_assoc]
      rfl

theorem asciiToBcdLoop_odd (ascii : List Nat) (length : Nat) : ∀ rounds done j bcd,
    bcd.length = done + rounds →
    ∃ error, asciiToBcdLoop ascii length (rounds + 1) done j bcd = .error error := by
  intro rounds
  induction rounds with
  | zero =>
      intro done j bcd written
      rw [asciiToBcdLoop, if_pos (by omega)]
      exact ⟨_, rfl⟩
  | succ rounds ih =>
      intro done j bcd written
      rw [asciiToBcdLoop, if_neg (by omega)]
      dsimp only
      split
      · exact ih (done + 1) _ _ (by rw [List.length_set]; omega)
      · exact ih (done + 1) _ _ (by rw [List.length_set]; omega)

theorem asciiToBcd_even {text : String} (digits : HexText text)
    (even : text.toList.length % 2 = 0) :
    asciiToBcd (Hash.utf8Bytes text) (utf16Units text).length =
      .ok (bytesOfHex text.toList) := by
  have rounds : (text.toList.length + 1) / 2 = text.toList.length / 2 := by omega
  have read := asciiToBcdLoop_even (text.toList.map Char.toNat) text.toList.length
    (text.toList.length / 2) text.toList [] [] digits (by omega) rfl rfl (by simp)
  unfold asciiToBcd
  rw [utf8Bytes_hex digits, length_utf16Units_hex digits, rounds]
  exact read

theorem asciiToBcd_odd {text : String} (digits : HexText text)
    (odd : text.toList.length % 2 ≠ 0) :
    ∃ error, asciiToBcd (Hash.utf8Bytes text) (utf16Units text).length = .error error := by
  have rounds : (text.toList.length + 1) / 2 = text.toList.length / 2 + 1 := by omega
  unfold asciiToBcd
  rw [length_utf16Units_hex digits, rounds]
  exact asciiToBcdLoop_odd _ _ _ 0 0 _ (by simp)

/-! ### Blocks -/

def paddedBlock (bytes : List Nat) (index : Nat) : List Nat :=
  let held := (bytes.drop (keyLength * index)).take keyLength
  held ++ List.replicate (keyLength - held.length) 0

def paddedBlocks (bytes : List Nat) : List (List Nat) :=
  (List.range ((bytes.length + keyLength - 1) / keyLength)).map (paddedBlock bytes)

theorem copyInto_zeros (data : List Nat) (length start : Nat) :
    copyInto (List.replicate length 0) data start (min (start + length) data.length) =
      (data.drop start).take length ++
        List.replicate (length - ((data.drop start).take length).length) 0 := by
  have copied : ((data.take (min (start + length) data.length)).drop start).take length =
      (data.drop start).take length := by
    rw [← List.take_eq_take_min, List.drop_take, List.take_take]
    have bound : min length (start + length - start) = length := by omega
    rw [bound]
  unfold copyInto
  rw [List.length_replicate, copied]
  dsimp only
  rw [List.drop_replicate]

theorem splitArrayFrom_eq (data : List Nat) (length : Nat) (positive : 0 < length) :
    ∀ count start, (data.length - start + length - 1) / length = count →
      splitArrayFrom data length positive start =
        (List.range count).map fun index =>
          let held := (data.drop (start + length * index)).take length
          held ++ List.replicate (length - held.length) 0 := by
  intro count
  induction count with
  | zero =>
      intro start blocks
      have finished : ¬ start < data.length := by
        intro inside
        have enough : length ≤ data.length - start + length - 1 := by omega
        have one := Nat.div_pos enough positive
        omega
      unfold splitArrayFrom
      rw [if_neg finished]
      rfl
  | succ count ih =>
      intro start blocks
      have inside : start < data.length := by
        by_contra finished
        have short : data.length - start + length - 1 < length := by omega
        rw [Nat.div_eq_of_lt short] at blocks
        omega
      have later : (data.length - (start + length) + length - 1) / length = count := by
        by_cases full : start + length ≤ data.length
        · have shorter : data.length - start + length - 1 =
              data.length - (start + length) + length - 1 + length := by omega
          rw [shorter, Nat.add_div_right _ positive] at blocks
          omega
        · have last : data.length - (start + length) + length - 1 < length := by omega
          have only : (data.length - start + length - 1) / length < 2 := by
            rw [Nat.div_lt_iff_lt_mul positive]
            omega
          rw [Nat.div_eq_of_lt last]
          omega
      unfold splitArrayFrom
      rw [if_pos inside, copyInto_zeros data length start, ih (start + length) later,
        List.range_succ_eq_map, List.map_cons, List.map_map]
      congr 1
      apply List.map_congr_left
      intro index _
      have place : start + length + length * index = start + length * (index + 1) := by ring
      simp only [Function.comp_apply, place]

theorem splitArray_eq (data : List Nat) :
    splitArray data keyLength keyLength_pos = paddedBlocks data := by
  unfold splitArray
  rw [splitArrayFrom_eq data keyLength keyLength_pos _ 0 rfl]
  simp only [Nat.zero_add, Nat.sub_zero]
  rfl

theorem length_paddedBlock (bytes : List Nat) (index : Nat) :
    (paddedBlock bytes index).length = keyLength := by
  unfold paddedBlock
  simp only [List.length_append, List.length_replicate, List.length_take]
  omega

theorem paddedBlock_lt (bytes : List Nat) (small : ∀ byte ∈ bytes, byte < 256) (index : Nat) :
    ∀ byte ∈ paddedBlock bytes index, byte < 256 := by
  intro byte listed
  rcases List.mem_append.mp listed with held | zero
  · exact small byte (List.mem_of_mem_drop (List.mem_of_mem_take held))
  · rw [List.eq_of_mem_replicate zero]
    omega

/-- The block, as a number below the modulus, decrypts to `00 02 PS 00 M` for the message `M`. -/
def Decrypts (block message : List Nat) : Prop :=
  bigEndianValue block < modulus ∧ ∃ padding,
    bigEndian keyLength (bigEndianValue block ^ privateKey % modulus) =
      [0x00, 0x02] ++ padding ++ [0x00] ++ message ∧
    minPaddingLength ≤ padding.length ∧ ∀ byte ∈ padding, byte ≠ 0

theorem modulus_large : 1 < modulus := by decide +kernel

theorem modulus_fits : modulus ≤ 256 ^ (127 + 1) := by decide +kernel

theorem privateKey_power (c : Nat) : modPow c privateKey modulus = c ^ privateKey % modulus := by
  unfold modPow
  rw [modPowLoop_eq modulus privateKey 1 _ modulus_large, Nat.one_mul, ← Nat.pow_mod]

theorem bytesOfHex_power (c : Nat) :
    bytesOfHex (padStart (keyLength * 2) '0'
        (Nat.toDigits 16 (modPow c privateKey modulus))) =
      bigEndian keyLength (c ^ privateKey % modulus) := by
  have below : c ^ privateKey % modulus < 256 ^ (127 + 1) :=
    Nat.lt_of_lt_of_le (Nat.mod_lt _ (Nat.lt_trans Nat.zero_lt_one modulus_large)) modulus_fits
  rw [privateKey_power, keyLength_eq]
  exact bytesOfHex_padStart 127 _ below

theorem idxOf?_split (value : Nat) : ∀ bytes index, bytes.idxOf? value = some index →
    ∃ before after, bytes = before ++ value :: after ∧ value ∉ before ∧ index = before.length := by
  intro bytes
  induction bytes with
  | nil => intro index found; simp at found
  | cons byte rest ih =>
      intro index found
      rw [List.idxOf?_cons] at found
      split at found
      · rename_i here
        have same : byte = value := by simpa using here
        cases found
        exact ⟨[], rest, by rw [same]; rfl, by simp, rfl⟩
      · rename_i elsewhere
        have other : byte ≠ value := by simpa using elsewhere
        obtain ⟨later, later_found, next⟩ := Option.map_eq_some_iff.mp found
        obtain ⟨before, after, spelled, absent, place⟩ := ih later later_found
        refine ⟨byte :: before, after, by rw [spelled]; rfl, ?_, ?_⟩
        · intro listed
          rcases List.mem_cons.mp listed with first | further
          · exact other first.symm
          · exact absent further
        · rw [List.length_cons, ← place]
          exact next.symm

theorem idxOf?_append (value : Nat) (before after : List Nat) (absent : value ∉ before) :
    (before ++ value :: after).idxOf? value = some before.length := by
  induction before with
  | nil => simp [List.idxOf?_cons]
  | cons byte rest ih =>
      have other : byte ≠ value := fun same => absent (by simp [same])
      rw [List.cons_append, List.idxOf?_cons, if_neg (by simpa using other),
        ih fun listed => absent (by simp [listed])]
      rfl

/-- The block is taken apart exactly where the grammar says. -/
theorem rsaDecryptBlock_ok_iff {block : List Nat} (filled : block ≠ [])
    (small : ∀ byte ∈ block, byte < 256) (message : List Nat) :
    rsaDecryptBlock block = .ok message ↔ Decrypts block message := by
  have spelled : hexOfBytes block ≠ [] := by
    cases block with
    | nil => exact absurd rfl filled
    | cons byte rest => simp [hexOfBytes]
  have number : bigIntOfHex (hexOfBytes block) = .ok (bigEndianValue block) := by
    unfold bigIntOfHex
    rw [hexNumber_hexOfBytes block small filled]
  unfold rsaDecryptBlock Decrypts
  simp only [if_neg spelled, number, bytesOfHex_power]
  generalize bigEndian keyLength (bigEndianValue block ^ privateKey % modulus) = em
  by_cases large : modulus ≤ bigEndianValue block
  · rw [if_pos large]
    constructor
    · intro decrypted; cases decrypted
    · rintro ⟨below, _⟩; omega
  rw [if_neg large]
  by_cases marked : em[0]? ≠ some 0x00 ∨ em[1]? ≠ some 0x02
  · rw [if_pos marked]
    constructor
    · intro decrypted; cases decrypted
    · rintro ⟨_, padding, grammar, _⟩
      rw [grammar] at marked
      simp at marked
  rw [if_neg marked]
  push Not at marked
  obtain ⟨body, headed⟩ : ∃ body, em = 0x00 :: 0x02 :: body := by
    rcases em with _ | ⟨first, _ | ⟨second, body⟩⟩
    · simp at marked
    · simp at marked
    · simp only [List.getElem?_cons_zero, List.getElem?_cons_succ, Option.some.injEq] at marked
      exact ⟨body, by rw [marked.1, marked.2]⟩
  subst headed
  unfold indexOfFrom
  constructor
  · intro decrypted
    split at decrypted
    · cases decrypted
    rename_i separator found
    obtain ⟨offset, offsetFound, place⟩ := Option.map_eq_some_iff.mp found
    obtain ⟨padding, after, split, absent, length⟩ := idxOf?_split 0 _ _ offsetFound
    split at decrypted
    · cases decrypted
    rename_i enough
    cases decrypted
    simp only [List.drop_succ_cons, List.drop_zero] at split
    refine ⟨by omega, padding, ?_, by omega, ?_⟩
    · have skipped : separator + 1 = padding.length + 1 + 2 := by omega
      rw [split, skipped]
      simp
    · intro byte listed zero
      rw [zero] at listed
      exact absent listed
  · rintro ⟨_, padding, grammar, enough, nonzero⟩
    have split : body = padding ++ 0x00 :: message := by simpa using grammar
    have absent : (0x00 : Nat) ∉ padding := fun listed => nonzero 0 listed rfl
    subst split
    simp only [List.drop_succ_cons, List.drop_zero, idxOf?_append 0x00 padding message absent,
      Option.map_some]
    rw [if_neg (by omega)]
    have skipped : 2 + padding.length = padding.length + 1 + 1 := by omega
    rw [skipped]
    simp

theorem decryptBlocks_ok_iff : ∀ blocks known plaintext,
    (∀ block ∈ blocks, block ≠ [] ∧ ∀ byte ∈ block, byte < 256) →
    (decryptBlocks blocks known = .ok plaintext ↔
      ∃ messages, List.Forall₂ Decrypts blocks messages ∧
        plaintext = known ++ messages.flatMap utf8Decode) := by
  intro blocks
  induction blocks with
  | nil =>
      intro known plaintext _
      rw [decryptBlocks]
      constructor
      · intro same
        cases same
        exact ⟨[], .nil, by simp⟩
      · rintro ⟨messages, decrypts, same⟩
        cases decrypts
        simp [same]
  | cons block rest ih =>
      intro known plaintext sized
      obtain ⟨filled, small⟩ := sized block (by simp)
      have later := fun start => ih start plaintext fun other listed =>
        sized other (by simp [listed])
      rw [decryptBlocks]
      constructor
      · intro decrypted
        split at decrypted
        · cases decrypted
        rename_i message opened
        obtain ⟨messages, decrypts, same⟩ := (later _).mp decrypted
        refine ⟨message :: messages,
          .cons ((rsaDecryptBlock_ok_iff filled small message).mp opened) decrypts, ?_⟩
        rw [same, List.flatMap_cons, List.append_assoc]
      · rintro ⟨_, decrypts, same⟩
        cases decrypts with
        | @cons _ message _ messages first others =>
            rw [(rsaDecryptBlock_ok_iff filled small message).mpr first]
            refine (later _).mpr ⟨messages, others, ?_⟩
            rw [same, List.flatMap_cons, List.append_assoc]

theorem paddedBlocks_sized (bytes : List Nat) (small : ∀ byte ∈ bytes, byte < 256) :
    ∀ block ∈ paddedBlocks bytes, block ≠ [] ∧ ∀ byte ∈ block, byte < 256 := by
  intro block listed
  obtain ⟨index, _, rfl⟩ := List.mem_map.mp listed
  constructor
  · intro empty
    have length := length_paddedBlock bytes index
    rw [empty, keyLength_eq] at length
    cases length
  · exact paddedBlock_lt bytes small index

theorem decrypts_each (blocks : List (List Nat)) :
    (∃ messages, List.Forall₂ Decrypts blocks messages) ↔
      ∀ block ∈ blocks, ∃ message, Decrypts block message := by
  constructor
  · rintro ⟨messages, decrypts⟩
    induction decrypts with
    | nil => intro block listed; cases listed
    | @cons first message _ _ opened _ ih =>
        intro block listed
        rcases List.mem_cons.mp listed with rfl | later
        · exact ⟨message, opened⟩
        · exact ih block later
  · intro each
    induction blocks with
    | nil => exact ⟨[], .nil⟩
    | cons block rest ih =>
        obtain ⟨message, opened⟩ := each block (by simp)
        obtain ⟨messages, decrypts⟩ := ih fun other listed => each other (by simp [listed])
        exact ⟨message :: messages, .cons opened decrypts⟩

/-! ### Passwords -/

theorem resolveRedisPassword_cipher (text : String) :
    resolveRedisPassword (some (cipherPrefix ++ text)) = (decrypt text).map some := by
  have letters : (cipherPrefix ++ text).toList = cipherPrefix.toList ++ text.toList :=
    String.toList_append
  have filled : cipherPrefix ++ text ≠ "" := by
    intro empty
    have none_left := congrArg (fun value => value.toList.length) empty
    simp [cipherPrefix] at none_left
  have counted : cipherPrefix.length = cipherPrefix.toList.length := rfl
  unfold resolveRedisPassword
  dsimp only
  rw [if_neg]
  · rw [letters, counted, List.drop_left, String.ofList_toList]
  · rintro (empty | different)
    · exact filled empty
    · apply different
      rw [letters]
      simp

theorem decrypt_ok_iff {text : String} (digits : HexText text) (password : String) :
    decrypt text = .ok password ↔ text.toList.length % 2 = 0 ∧
      ∃ messages, List.Forall₂ Decrypts (paddedBlocks (bytesOfHex text.toList)) messages ∧
        password = String.ofList (messages.flatMap utf8Decode) := by
  unfold decrypt
  by_cases even : text.toList.length % 2 = 0
  · have decoded := paddedBlocks_sized _ (bytesOfHex_lt text.toList)
    have opened := decryptBlocks_ok_iff (paddedBlocks (bytesOfHex text.toList)) []
    rw [asciiToBcd_even digits even]
    dsimp only
    rw [splitArray_eq]
    constructor
    · intro resolved
      split at resolved
      · cases resolved
      rename_i plaintext decrypted
      cases resolved
      obtain ⟨messages, decrypts, same⟩ := (opened plaintext decoded).mp decrypted
      exact ⟨even, messages, decrypts, by rw [same]; rfl⟩
    · rintro ⟨_, messages, decrypts, same⟩
      have decrypted := (opened (messages.flatMap utf8Decode) decoded).mpr
        ⟨messages, decrypts, rfl⟩
      rw [decrypted, same]
  · obtain ⟨error, failed⟩ := asciiToBcd_odd digits even
    rw [failed]
    constructor
    · intro resolved; cases resolved
    · rintro ⟨whole, _⟩; exact absurd whole even

theorem decrypt_error {text : String} {error : RedisConnectionError}
    (failed : decrypt text = .error error) :
    error.message = "Failed to decrypt REDIS_PASSWORD \x7bcipher\x7d value" := by
  unfold decrypt at failed
  dsimp only at failed
  split at failed
  · cases failed; rfl
  · split at failed
    · cases failed; rfl
    · cases failed

/-- A `{cipher}` value gives a password exactly when all its blocks are well formed. -/
theorem cipher_password_iff (text : String) (digits : HexText text) :
    (∀ password, resolveRedisPassword (some (cipherPrefix ++ text)) = .ok password ↔
      text.toList.length % 2 = 0 ∧
      ∃ messages, List.Forall₂ Decrypts (paddedBlocks (bytesOfHex text.toList)) messages ∧
        password = some (String.ofList (messages.flatMap utf8Decode))) ∧
    (¬ (text.toList.length % 2 = 0 ∧
        ∀ block ∈ paddedBlocks (bytesOfHex text.toList), ∃ message, Decrypts block message) →
      ∃ cause, resolveRedisPassword (some (cipherPrefix ++ text)) =
        .error ⟨"Failed to decrypt REDIS_PASSWORD \x7bcipher\x7d value", cause⟩) := by
  rw [resolveRedisPassword_cipher]
  constructor
  · intro password
    constructor
    · intro resolved
      cases decrypted : decrypt text with
      | error error => rw [decrypted] at resolved; cases resolved
      | ok plaintext =>
          rw [decrypted] at resolved
          cases resolved
          obtain ⟨even, messages, decrypts, same⟩ := (decrypt_ok_iff digits plaintext).mp decrypted
          exact ⟨even, messages, decrypts, by rw [same]⟩
    · rintro ⟨even, messages, decrypts, rfl⟩
      rw [(decrypt_ok_iff digits _).mpr ⟨even, messages, decrypts, rfl⟩]
      rfl
  · intro malformed
    cases decrypted : decrypt text with
    | error error =>
        obtain ⟨message, cause⟩ := error
        have named : message = _ := decrypt_error decrypted
        exact ⟨cause, by rw [named]; rfl⟩
    | ok plaintext =>
        obtain ⟨even, messages, decrypts, _⟩ := (decrypt_ok_iff digits plaintext).mp decrypted
        exact absurd ⟨even, (decrypts_each _).mp ⟨messages, decrypts⟩⟩ malformed

/-- The block of `hello`, padded with ones, as a number: what it becomes, and what it was. -/
def helloNumber : Nat :=
  738351765991868351850908973308651064753645417942181136710867172500050618 * 10 ^ 236 +
    894454405415257038381774703453706019605749660977843000562570599126125702 * 10 ^ 164 +
    248760663969194287848076682788205175554656260480790333277729239528723565 * 10 ^ 92 +
    411757105109219415923604935612475555739255741635498292974379757951146480 * 10 ^ 20 +
    52272075450551444008

def helloPadded : Nat :=
  549688117481093121008584985167973320981963654306161115260241767862964090 * 10 ^ 232 +
    603763309019883290679035566183605587185814244921896790579188728446774022 * 10 ^ 160 +
    941181085788843727222757414353172095410014054565998394687957856050067236 * 10 ^ 88 +
    178521112171441968548939941183161659821818990212823609673250532341063446 * 10 ^ 16 +
    4689135433837679

theorem helloPower : helloNumber ^ privateKey % modulus = helloPadded := by
  rw [← privateKey_power, modPow, modPowLoop_rounds (show privateKey < 2 ^ 1024 by decide +kernel)]
  decide +kernel

def helloBlock : List Nat := bigEndian 128 helloNumber

/-- What `hello` is encrypted to. -/
def helloCipher : String := String.ofList (hexOfBytes helloBlock)

theorem helloBlock_small : ∀ byte ∈ helloBlock, byte < 256 := bigEndian_lt 128 helloNumber

theorem hello_decrypts : Decrypts helloBlock (Hash.utf8Bytes "hello") := by
  have number : bigEndianValue helloBlock = helloNumber := by decide +kernel
  refine ⟨by rw [number]; decide +kernel, List.replicate 120 1, ?_, by decide +kernel, ?_⟩
  · rw [number, helloPower]
    decide +kernel
  · decide +kernel

theorem cipher_password_hello :
    resolveRedisPassword (some (cipherPrefix ++ helloCipher)) = .ok (some "hello") := by
  have spelled : helloCipher.toList = hexOfBytes helloBlock := by
    rw [helloCipher, String.toList_ofList]
  have digits : HexText helloCipher := by
    rw [HexText, spelled]
    exact isHexDigit_hexOfBytes helloBlock_small
  have even : helloCipher.toList.length % 2 = 0 := by
    rw [spelled, length_hexOfBytes, Nat.mul_mod_right]
  refine ((cipher_password_iff helloCipher digits).1 _).mpr
    ⟨even, [Hash.utf8Bytes "hello"], ?_, by decide +kernel⟩
  have one : paddedBlocks helloBlock = [helloBlock] := by decide +kernel
  rw [spelled, bytesOfHex_hexOfBytes helloBlock_small, one]
  exact .cons hello_decrypts .nil

theorem decrypt_texts {text : String} (digits : HexText text)
    (even : text.toList.length % 2 = 0) (texts : List String)
    (holds : List.Forall₂ Decrypts (paddedBlocks (bytesOfHex text.toList))
      (texts.map Hash.utf8Bytes)) :
    decrypt text = .ok (String.ofList (texts.flatMap String.toList)) := by
  refine (decrypt_ok_iff digits _).mpr ⟨even, _, holds, ?_⟩
  have letters : (texts.map Hash.utf8Bytes).flatMap utf8Decode = texts.flatMap String.toList := by
    rw [List.flatMap_map]
    exact congrArg (fun read => texts.flatMap read) (funext utf8Decode_utf8Bytes)
  rw [letters]

end ByFramework.RedisPassword
