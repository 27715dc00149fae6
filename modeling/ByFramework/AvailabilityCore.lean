import ByFramework.RegistryCore

/-! Whether a command can be delivered now, and what to do when its agent type is offline. -/

namespace ByFramework

open Async

structure AvailabilityResult where
  status : AvailabilityStatus
  streamName : Option Key := none
  selectedAgentType : String := ""
  error : String := ""
  errorCode : String := ""
deriving DecidableEq, Repr

def reject (error errorCode : String) : AvailabilityResult :=
  { status := .reject, error, errorCode }

def deliver (agentType : String) : AvailabilityResult :=
  { status := .deliverNow, streamName := some (.ctrlStream agentType) }

/-- Whether a JSON value counts as true in a condition. -/
def JsonValue.truthy : JsonValue → Bool
  | .null => false
  | .bool value => value
  | .number value => value ≠ 0
  | .string value => value ≠ ""
  | _ => true

/-- `String(fields.first || fields.second || ... || '')` -/
def textField (fields : JsonObject) : List String → String
  | [] => ""
  | name :: rest =>
      match (fields.lookup name).filter JsonValue.truthy with
      | some value => value.toText
      | none => textField fields rest

/-- `left || right` of strings -/
def orElseText (left right : String) : String := if left = "" then right else left

def upper (text : String) : String := String.ofList (text.toList.map Char.toUpper)

section

variable {σ : Type}

/-- The fields of a JSON object behind a key; anything else has none. -/
def readJson (key : Key) : Proc σ JsonObject := do
  match ← redis (.get key) with
  | some (.json (.object fields)) => pure fields
  | _ => pure []

def publishWakeup (intent : DeliveryIntent) : Proc σ PUnit := do
  let _ ← redis (.xadd .controlPlaneWakeupStream (.wakeup intent))

def queuePending (intent : DeliveryIntent) : Proc σ AvailabilityResult := do
  let streamName := Key.controlPlaneDeliveryPendingStream
  let _ ← redis (.xadd streamName (.pendingDelivery (.ctrlStream intent.targetAgentType) intent))
  pure { status := .queuePending, streamName := some streamName }

def wakeupTimedOut (intent : DeliveryIntent) : AvailabilityResult :=
  reject ("Timed out waiting for worker wakeup for agent_type '" ++ intent.targetAgentType ++ "'")
    "AGENT_TYPE_UNAVAILABLE"

/-- Poll until the deadline. Each poll sleeps a millisecond at least, so `polls` bounds them. -/
def awaitWakeup (intent : DeliveryIntent) (deadline : Int) : Nat → Proc σ AvailabilityResult
  | 0 => pure (wakeupTimedOut intent)
  | polls + 1 => do
      if (← dateNow) < deadline then
        let online ← hasOnlineAgentType intent.targetAgentType
        if !online.isEmpty then
          pure
            { status := .waitAndDeliver
              streamName := some (.ctrlStream intent.targetAgentType) }
        else
          let _ ← dateNow
          awaitWakeup intent deadline polls
      else pure (wakeupTimedOut intent)

def wakeAndWait (intent : DeliveryIntent) : Proc σ AvailabilityResult := do
  publishWakeup intent
  let timeout := max 0 (intent.timeoutMs.getD 30000)
  if timeout = 0 then pure (wakeupTimedOut intent)
  else
    let now ← dateNow
    awaitWakeup intent (now + timeout) timeout.toNat

/-- What happens to a command whose agent type has no worker online. -/
def routeOffline (intent : DeliveryIntent) : Proc σ AvailabilityResult :=
  match intent.policy with
  | .failFast => pure (reject
      ("No alive worker found with agent type '" ++ intent.targetAgentType ++ "'")
      "AGENT_TYPE_UNAVAILABLE")
  | .queueOnly => queuePending intent
  | .wakeAndQueue => do
      publishWakeup intent
      queuePending intent
  | .wakeAndWait => wakeAndWait intent
  | policy => pure (reject ("Unsupported offline route policy '" ++ policy.text ++ "'")
      "AGENT_TYPE_UNAVAILABLE")

def routeOnline (intent : DeliveryIntent) : Proc σ AvailabilityResult := do
  let online ← hasOnlineAgentType intent.targetAgentType
  if !online.isEmpty then pure (deliver intent.targetAgentType)
  else
    let fallback ← readJson (.controlPlaneAgentFallback intent.targetAgentType)
    let selected := textField fallback ["selected_agent_type", "agent_type", "target_agent_type"]
    let reachable ← (if selected = "" then pure [] else hasOnlineAgentType selected)
    if !reachable.isEmpty then
      pure
        { status := .fallbackToOtherAgentType
          streamName := some (.ctrlStream selected)
          selectedAgentType := selected }
    else routeOffline intent

def quotaRejection (userCode : String) : Proc σ (Option AvailabilityResult) := do
  if userCode = "" then pure none
  else
    let quota ← readJson (.controlPlaneUserQuota userCode)
    match quota.lookup "available" with
    | some (.bool false) => pure (some
        (reject (orElseText (textField quota ["reason"]) "user quota exceeded")
          "TENANT_QUOTA_EXCEEDED"))
    | _ => pure none

def prepareDelivery (intent : DeliveryIntent) : Proc σ AvailabilityResult := do
  if !intent.policy.isSupported then
    pure (reject ("Unsupported offline route policy '" ++ intent.policy.text ++ "'")
      "AGENT_TYPE_UNAVAILABLE")
  else
    let circuit ← readJson (.controlPlaneAgentCircuit intent.targetAgentType)
    if upper (textField circuit ["state"]) = "OPEN" then
      pure (reject (orElseText (textField circuit ["reason"]) "agent circuit is open")
        "AGENT_CIRCUIT_OPEN")
    else
      match ← quotaRejection intent.userCode with
      | some rejection => pure rejection
      | none =>
          if intent.policy = .sendAnyway then pure (deliver intent.targetAgentType)
          else routeOnline intent

end

end ByFramework
