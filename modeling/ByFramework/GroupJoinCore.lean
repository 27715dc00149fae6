import ByFramework.Effects

/-! The scatter-gather join a worker makes for each reply that carries a Task Group. -/

namespace ByFramework

def taskGroupFieldTotal := "total"
def taskGroupFieldCompleted := "completed"
def taskGroupFieldAborted := "aborted"

def Value.truthy : Value → Bool
  | .text value => value ≠ ""
  | _ => true

/-- The number a run of decimal digits spells, if there is at least one. -/
def decimalRun : List Char → Option Nat → Option Nat
  | [], total => total
  | char :: rest, total =>
      if char.isDigit then decimalRun rest (some (total.getD 0 * 10 + (char.toNat - 48)))
      else total

/-- `parseInt(text, 10)`; `none` is `NaN`. -/
def parseInt (text : String) : Option Int :=
  match text.toList.dropWhile isJsSpace with
  | '-' :: rest => (decimalRun rest none).map fun number => -(number : Int)
  | '+' :: rest => (decimalRun rest none).map fun number => (number : Int)
  | digits => (decimalRun digits none).map fun number => (number : Int)

def Value.parseInt : Value → Option Int
  | .text value => ByFramework.parseInt value
  | .number value => some value
  | _ => none

/-- `left < right` where the right side may be `NaN`. -/
def belowParsed (left : Int) : Option Int → Bool
  | some right => left < right
  | none => false

def resultData (command : ResumeCommand) : StoredResult where
  status := command.status
  replyData := command.replyData
  content := command.content
  targetAgentType := command.header.sourceAgentType
  metadata := command.header.metadata
  extraPayload := command.extraPayload

def groupExpiredResult (header : MessageHeader) : AgentTaskResult :=
  { status := AgentState.failed
    replyData := .object
      [("error", .string ("Task group " ++ header.taskGroupId ++
          " expired before all replies arrived")),
        ("error_code", .string taskGroupExpired),
        ("task_group_id", .string header.taskGroupId),
        ("child_message_id", .string header.parentMessageId)] }

def groupAbortedResult : AgentTaskResult := { status := AgentState.cancelled ++ ": group_aborted" }

def waitingForGroupResult : AgentTaskResult :=
  { status := AgentState.waitingAgent ++ ": waiting_for_group" }

/-- Count a reply in; a result ends the message early, `none` lets it resume the caller. -/
def joinGroup {σ : Type} (command : ResumeCommand) : Proc σ (Option AgentTaskResult) := do
  let groupKey := Key.taskGroup command.header.taskGroupId
  let resultsKey := Key.taskGroupResults command.header.taskGroupId
  match ← redis (.hget groupKey taskGroupFieldTotal) with
  | none => pure (some (groupExpiredResult command.header))
  | some total =>
      let aborted ← redis (.hget groupKey taskGroupFieldAborted)
      if Option.any Value.truthy aborted then pure (some groupAbortedResult)
      else
        let _ ← redis (.hset resultsKey
          [(command.header.parentMessageId, .result (resultData command))])
        let _ ← redis (.expire resultsKey taskGroupTtlSeconds)
        let completed ← redis (.hincrby groupKey taskGroupFieldCompleted 1)
        if belowParsed completed total.parseInt then pure (some waitingForGroupResult)
        else pure none

example : parseInt " 42abc" = some 42 := by decide

end ByFramework
