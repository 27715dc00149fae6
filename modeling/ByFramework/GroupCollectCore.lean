import ByFramework.AvailabilityCore
import ByFramework.GroupJoinCore

/-! Collecting the results of a Task Group by polling its results hash. -/

namespace ByFramework

open Async

structure GroupResult where
  messageId : String
  status : JsonValue
  replyData : Option JsonValue := none
  content : Option JsonValue := none
deriving DecidableEq

/-- A stored result as `JSON.parse` and the property reads find it; `none` where they throw. -/
def readGroupResult (messageId : String) : Value → Option GroupResult
  | .text _ | .json .null => none
  | .json (.object fields) => some
      { messageId := messageId
        status := ((fields.lookup "status").filter JsonValue.truthy).getD (.string "")
        replyData := fields.lookup "reply_data"
        content := fields.lookup "content" }
  | .result stored => some
      { messageId := messageId
        status := .string stored.status
        replyData := some stored.replyData
        content := some stored.content }
  | .execution record => some { messageId := messageId, status := .string record.status }
  | _ => some { messageId := messageId, status := .string "" }

/-- `totalStr ? parseInt(totalStr, 10) : Infinity`; the inner `none` is `NaN`. -/
def groupTotal (totalStr : Option Value) : Option (Option Int) :=
  (totalStr.filter Value.truthy).map Value.parseInt

/-- `count < total` -/
def belowTotal (count : Nat) : Option (Option Int) → Bool
  | none => true
  | some total => belowParsed count total

def readable (rawResults : List (String × Value)) : List GroupResult :=
  rawResults.filterMap fun entry => readGroupResult entry.1 entry.2

section

variable {σ : Type}

/-- The polling loop; `none` when `polls` rounds do not end it. -/
def collectPolls (resultsKey : Key) (total : Option (Option Int)) (timeout : Rat)
    (startTime : Int) : Nat → List GroupResult → Proc σ (Option (List GroupResult))
  | 0, _ => pure none
  | polls + 1, results => do
      if belowTotal results.length total then
        let now ← dateNow
        if timeout ≤ ((now - startTime : Int) : Rat) / 1000 then pure (some results)
        else
          let rawResults ← redis (.hgetall resultsKey)
          let collected := results ++ readable rawResults
          if belowTotal collected.length total then
            collectPolls resultsKey total timeout startTime polls collected
          else pure (some collected)
      else pure (some results)

/-- Collect the results of all tasks of a group; `timeout` is in seconds. -/
def collectGroupResults (polls : Nat) (taskGroupId : String) (timeout : Rat) :
    Proc σ (Option (List GroupResult)) := do
  if taskGroupId = "" then pure (some [])
  else
    let totalStr ← redis (.hget (.taskGroup taskGroupId) taskGroupFieldTotal)
    let startTime ← dateNow
    collectPolls (.taskGroupResults taskGroupId) (groupTotal totalStr) timeout startTime polls []

end

end ByFramework
