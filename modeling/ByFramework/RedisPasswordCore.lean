import ByFramework.LifecycleCore
import ByFramework.Text.Hex
import ByFramework.Text.Utf8

/-! Passwords given as `{cipher}` values: hexadecimal RSA blocks and what they decrypt to. -/

namespace ByFramework.RedisPassword

open Text

def cipherPrefix := "\x7bcipher\x7d"

def modulus : Nat :=
  118249911269313777353369205468358971445904616358074252669429944094950609 * 10 ^ 237 +
    311848727388859640174096832607664732279928019002795333396858212446930193 * 10 ^ 165 +
    162882569448161371673123891912144968110489981164388431260818873249786366 * 10 ^ 93 +
    362488910362896712606417158347288417834035704864053434682010900207183838 * 10 ^ 21 +
    254091105621956825021

def privateKey : Nat :=
  486373286567224954199523979218622218639212176106359698331805479808884847 * 10 ^ 236 +
    431251704456124091815761206611869710749307975683865756297314490245121120 * 10 ^ 164 +
    420321732982564126362643243208709861523940153746233446702040720249396157 * 10 ^ 92 +
    848350707068412091346394073481926826790160613505333343349449539446344171 * 10 ^ 20 +
    83180191532927602945

/-- `Math.floor(MODULUS.toString(2).length / 8)` -/
def keyLength : Nat := (Nat.toDigits 2 modulus).length / 8

def minPaddingLength := 8

structure RedisConnectionError where
  message : String := "Failed to connect to Redis"
  cause : Option JsError := none
deriving DecidableEq, Repr

def redisConnectionError (message : String) : JsError := ⟨"RedisConnectionError", message⟩

def modPowLoop (modulus result b e : Nat) : Nat :=
  if 0 < e then
    modPowLoop modulus (if e &&& 1 ≠ 0 then result * b % modulus else result)
      (b * b % modulus) (e >>> 1)
  else result
termination_by e
decreasing_by
  rw [Nat.shiftRight_eq_div_pow]
  omega

def modPow (base exponent modulus : Nat) : Nat :=
  modPowLoop modulus 1 (base % modulus) exponent

/-- One digit's value. Past the end of the buffer there is `undefined`, which counts as zero. -/
def ascToBcd : Option Nat → Nat
  | none => 0
  | some asc =>
      if 0x30 ≤ asc ∧ asc ≤ 0x39 then asc - 0x30
      else if 0x41 ≤ asc ∧ asc ≤ 0x46 then asc - 0x41 + 10
      else if 0x61 ≤ asc ∧ asc ≤ 0x66 then asc - 0x61 + 10
      else (((asc : Int) - 48) % 256).toNat

/-- The rounds left of the loop of `asciiToBcd`, at `bcd[i]` and `ascii[j]`. -/
def asciiToBcdLoop (ascii : List Nat) (length : Nat) :
    Nat → Nat → Nat → List Nat → Except JsError (List Nat)
  | 0, _, _, bcd => .ok bcd
  | rounds + 1, i, j, bcd =>
      if bcd.length ≤ i then .error (redisConnectionError "Odd-length \x7bcipher\x7d value")
      else
        let high := ascToBcd ascii[j]?
        if length ≤ j + 1 then
          asciiToBcdLoop ascii length rounds (i + 1) (j + 1) (bcd.set i (high <<< 4 &&& 0xff))
        else
          let low := ascToBcd ascii[j + 1]?
          asciiToBcdLoop ascii length rounds (i + 1) (j + 2)
            (bcd.set i ((low + high <<< 4) &&& 0xff))

def asciiToBcd (ascii : List Nat) (length : Nat) : Except JsError (List Nat) :=
  asciiToBcdLoop ascii length ((length + 1) / 2) 0 0 (List.replicate (length / 2) 0)

/-- `source.copy(target, 0, start, stop)` -/
def copyInto (target source : List Nat) (start stop : Nat) : List Nat :=
  let copied := ((source.take stop).drop start).take target.length
  copied ++ target.drop copied.length

def splitArrayFrom (data : List Nat) (length : Nat) (positive : 0 < length) (i : Nat) :
    List (List Nat) :=
  if i < data.length then
    copyInto (List.replicate length 0) data i (min (i + length) data.length) ::
      splitArrayFrom data length positive (i + length)
  else []
termination_by data.length - i

def splitArray (data : List Nat) (length : Nat) (positive : 0 < length) : List (List Nat) :=
  splitArrayFrom data length positive 0

/-- `BigInt('0x' + digits)` -/
def bigIntOfHex (digits : List Char) : Except JsError Nat :=
  match hexNumber digits with
  | some number => .ok number
  | none => .error ⟨"SyntaxError", "Cannot convert 0x" ++ String.ofList digits ++ " to a BigInt"⟩

/-- `bytes.indexOf(value, start)` -/
def indexOfFrom (bytes : List Nat) (value start : Nat) : Option Nat :=
  ((bytes.drop start).idxOf? value).map (start + ·)

def rsaDecryptBlock (block : List Nat) : Except JsError (List Nat) :=
  let hex := hexOfBytes block
  match bigIntOfHex (if hex = [] then ['0'] else hex) with
  | .error error => .error error
  | .ok c =>
      if modulus ≤ c then .error (redisConnectionError "Message is larger than modulus")
      else
        let power := Nat.toDigits 16 (modPow c privateKey modulus)
        let em := bytesOfHex (padStart (keyLength * 2) '0' power)
        if em[0]? ≠ some 0x00 ∨ em[1]? ≠ some 0x02 then
          .error (redisConnectionError "Decryption error")
        else
          match indexOfFrom em 0x00 2 with
          | none => .error (redisConnectionError "Decryption error")
          | some separator =>
              if separator - 2 < minPaddingLength then
                .error (redisConnectionError "Decryption error")
              else .ok (em.drop (separator + 1))

def decryptBlocks : List (List Nat) → List Char → Except JsError (List Char)
  | [], plaintext => .ok plaintext
  | block :: rest, plaintext =>
      match rsaDecryptBlock block with
      | .error error => .error error
      | .ok message => decryptBlocks rest (plaintext ++ utf8Decode message)

theorem keyLength_eq : keyLength = 128 := by decide +kernel

theorem keyLength_pos : 0 < keyLength := by rw [keyLength_eq]; omega

def decrypt (text : String) : Except RedisConnectionError String :=
  let failed (error : JsError) : Except RedisConnectionError String :=
    .error ⟨"Failed to decrypt REDIS_PASSWORD \x7bcipher\x7d value", some error⟩
  match asciiToBcd (Hash.utf8Bytes text) (utf16Units text).length with
  | .error error => failed error
  | .ok bcd =>
      match decryptBlocks (splitArray bcd keyLength keyLength_pos) [] with
      | .error error => failed error
      | .ok plaintext => .ok (String.ofList plaintext)

def resolveRedisPassword : Option String → Except RedisConnectionError (Option String)
  | none => .ok none
  | some value =>
      if value = "" ∨ ¬ cipherPrefix.toList.isPrefixOf value.toList then .ok (some value)
      else (decrypt (String.ofList (value.toList.drop cipherPrefix.length))).map some

end ByFramework.RedisPassword
