import ByFramework.Hash.Sha1
import ByFramework.Effects

/-! How a suspended caller's wait is spelled in the wait index, and which shard holds it. -/

namespace ByFramework

structure WaitIndexMember where
  sessionId : String
  parentMessageId : String
  childMessageId : String
  taskGroupId : String
deriving DecidableEq, Repr

/-- `text.split(char).join(replacement)` -/
def replaceChar (char : Char) (replacement : List Char) (text : List Char) : List Char :=
  text.flatMap fun current => if current = char then replacement else [current]

def escapeField (value : List Char) : List Char :=
  replaceChar '|' ['\\', '|'] (replaceChar '\\' ['\\', '\\'] value)

/-- The scan of `splitEscaped`: finished fields, the current one, and a pending escape. -/
def splitScan : List Char → List String → List Char → Bool → Option (List String)
  | [], fields, current, escaped =>
      if escaped then none else some (fields ++ [String.ofList current])
  | char :: rest, fields, current, escaped =>
      if escaped then splitScan rest fields (current ++ [char]) false
      else if char = '\\' then splitScan rest fields current true
      else if char = '|' then splitScan rest (fields ++ [String.ofList current]) [] false
      else splitScan rest fields (current ++ [char]) false

def hexEscape (char : Char) : List Char :=
  ['\\', 'u', '0', '0'] ++ Hash.Sha1.hexDigits 2 char.toNat

/-- `JSON.stringify` of a string -/
def jsonQuote (text : String) : String :=
  let quoted := text.toList.flatMap fun char =>
    if char = '"' ∨ char = '\\' then ['\\', char]
    else if char.toNat = 8 then ['\\', 'b']
    else if char.toNat = 9 then ['\\', 't']
    else if char.toNat = 10 then ['\\', 'n']
    else if char.toNat = 12 then ['\\', 'f']
    else if char.toNat = 13 then ['\\', 'r']
    else if char.toNat < 32 then hexEscape char
    else [char]
  String.ofList ('"' :: quoted ++ ['"'])

def waitIndexMemberError (member reason : String) : JsError :=
  ⟨"WaitIndexMemberError", "Invalid wait-index member (" ++ reason ++ "): " ++ jsonQuote member⟩

def splitEscaped (encoded : String) : Except JsError (List String) :=
  match splitScan encoded.toList [] [] false with
  | some fields => .ok fields
  | none => .error (waitIndexMemberError encoded "dangling escape")

def encodeMember (member : WaitIndexMember) : String :=
  String.ofList (escapeField member.sessionId.toList ++ '|' ::
    escapeField member.parentMessageId.toList ++ '|' ::
    escapeField member.childMessageId.toList ++ '|' :: escapeField member.taskGroupId.toList)

def decodeMember (member : String) : Except JsError WaitIndexMember := do
  match ← splitEscaped member with
  | [sessionId, parentMessageId, childMessageId, taskGroupId] =>
      pure ⟨sessionId, parentMessageId, childMessageId, taskGroupId⟩
  | fields => throw (waitIndexMemberError member
      ("expected 4 fields, got " ++ toString fields.length))

def memberFromResume (header : MessageHeader) : String :=
  encodeMember ⟨header.sessionId, header.messageId, header.parentMessageId, header.taskGroupId⟩

def memberDigest (member : String) : String := Hash.sha1Hex member

/-! ### Shards -/

/-- The signed 32-bit integer a JavaScript bit operation takes a number for. -/
def toInt32 (value : Int) : Int := (value + 2 ^ 31) % 2 ^ 32 - 2 ^ 31

/-- `value >>> 0` -/
def toUint32 (value : Int) : Int := value % 2 ^ 32

def bitXor (left right : Int) : Int :=
  toInt32 (((toUint32 left).toNat ^^^ (toUint32 right).toNat : Nat) : Int)

/-- `Math.imul` -/
def imul (left right : Int) : Int := toInt32 (toInt32 left * toInt32 right)

def fnv1a32 (text : String) : Int :=
  (Hash.utf8Bytes text).foldl
    (fun (digest : Int) (byte : Nat) => toUint32 (imul (bitXor digest byte) 0x01000193))
    0x811c9dc5

def waitIndexShard (sessionId : String) : Nat := (fnv1a32 sessionId % waitIndexShards).toNat

def waitIndexKey (sessionId : String) : Key := .waitIndex (waitIndexShard sessionId)

end ByFramework
