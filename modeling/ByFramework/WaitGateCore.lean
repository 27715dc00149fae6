import ByFramework.WaitIndexCore
import ByFramework.EmitterCore

/-! Registering a wait, and the gate that decides which copy of its reply may wake the caller. -/

namespace ByFramework

structure WaitGateDecision where
  allow : Bool
  reason : String
  member : String
deriving DecidableEq, Repr

def allowClaimed := "claimed"
def allowUnregistered := "unregistered"
def allowGateError := "gate_error"
def denyAlreadyConsumed := "already_consumed"

def consumedMarkerKey (sessionId member : String) : Key :=
  .waitConsumed sessionId (memberDigest member)

def askUserMember (header : MessageHeader) : String :=
  encodeMember ⟨header.sessionId, header.messageId, "", ""⟩

/-- The members a reply could be clearing, most specific first. -/
def candidateMembers (header : MessageHeader) : List String :=
  let members := [memberFromResume header]
  if header.taskGroupId = "" ∧ askUserMember header ∉ members then
    members ++ [askUserMember header]
  else members

section

variable {σ : Type}

def markConsumed (sessionId member : String) : Proc σ PUnit :=
  Async.Task.failSoft do
    let _ ← redis (.set (consumedMarkerKey sessionId member) (.text "1") false
      (some waitConsumedTtlSeconds))

/-- Resolve each candidate fully, claim and then marker, before the next. -/
def tryCandidates (sessionId : String) : List String → Proc σ WaitGateDecision
  | [] => pure ⟨true, allowUnregistered, ""⟩
  | member :: rest => do
      let removed : Nat ← redis (.zrem (waitIndexKey sessionId) member)
      if removed > 0 then
        markConsumed sessionId member
        pure ⟨true, allowClaimed, member⟩
      else
        let consumed : Bool ← redis (.existsKey (consumedMarkerKey sessionId member))
        if consumed then pure ⟨false, denyAlreadyConsumed, member⟩
        else tryCandidates sessionId rest

/-- Claim the wait a reply resolves; any error lets the reply through. -/
def consumeWaitEntry (header : MessageHeader) : Proc σ WaitGateDecision :=
  tryCatch (tryCandidates header.sessionId (candidateMembers header))
    fun _ => pure ⟨true, allowGateError, ""⟩

structure RegisterWaitParams where
  sessionId : String
  parentMessageId : String
  childMessageId : String
  taskGroupId : String := ""
  timeoutMs : Int

def RegisterWaitParams.member (params : RegisterWaitParams) : String :=
  encodeMember
    ⟨params.sessionId, params.parentMessageId, params.childMessageId, params.taskGroupId⟩

/-- Put a wait into the index, then void the marker of an earlier round. -/
def registerWait (params : RegisterWaitParams) : Proc σ PUnit :=
  Async.Task.failSoft do
    let now ← dateNow
    let deadlineMs := now + max 0 params.timeoutMs
    let _ ← redis (.zadd (waitIndexKey params.sessionId) params.member deadlineMs)
    Async.Task.failSoft do
      let _ ← redis (.del (consumedMarkerKey params.sessionId params.member))

/-- Announce that a reply was dropped. -/
def emitOrphanedReply (command : GatewayCommand) (workerId reason : String) : Proc σ PUnit :=
  Async.Task.failSoft do
    let header := command.header
    emitEvent
      { traceId := header.traceId
        sessionId := header.sessionId
        eventType := EventType.orphanedReply
        sourceAgentType := header.sourceAgentType
        messageId := header.messageId
        parentMessageId := header.parentMessageId
        data := [("reason", .string (if reason = "" then denyAlreadyConsumed else reason)),
          ("caller_message_id", .string header.messageId),
          ("child_message_id", .string header.parentMessageId),
          ("task_group_id", .string header.taskGroupId),
          ("status", .string command.status),
          ("worker_id", .string workerId)] }

end

end ByFramework
