import ByFramework.WaitGateCore

/-! Replies built by someone other than the callee that owed them. -/

namespace ByFramework

open Async

def synthesizedBySweeper := "wait_sweeper"
def synthesizedByDispatch := "dispatch"

def failureReplyData (error errorCode childMessageId : String) : JsonValue :=
  .object [("error", .string error), ("error_code", .string errorCode),
    ("child_message_id", .string childMessageId)]

structure StandInReplyParams where
  sessionId : String
  callerMessageId : String
  callerAgentType : String
  childMessageId : String
  childAgentType : String := ""
  taskGroupId : String := ""
  traceId : String := ""
  status : String
  content : JsonValue := .string ""
  replyData : JsonValue := .null
  extraPayload : JsonObject := []
  metadata : JsonObject := []
  errorCode : String := ""
  synthesizedBy : String
  userCode : String := ""
  userName : String := ""

/-- The header of a stand-in: the caller's message id, and the sub-task's as its parent. -/
def standInHeader (params : StandInReplyParams) (traceId : String) : MessageHeader :=
  { messageId := params.callerMessageId
    sessionId := params.sessionId
    traceId := traceId
    sourceAgentType := params.childAgentType
    targetAgentType := params.callerAgentType
    parentMessageId := params.childMessageId
    taskGroupId := params.taskGroupId
    userCode := params.userCode
    userName := params.userName
    metadata := spread params.metadata
      [("synthesized_by", .string params.synthesizedBy),
        ("liveness_error_code", .string params.errorCode),
        ("child_message_id", .string params.childMessageId)] }

section

variable {σ : Type}

def standInReply (params : StandInReplyParams) : Proc σ ResumeCommand := do
  let traceId ← (if params.traceId = "" then plainId else pure params.traceId)
  orThrow (ResumeCommand.make (standInHeader params traceId) params.content params.status
    params.replyData params.extraPayload)

/-- Send the stand-ins a fan-out queued; one that cannot be delivered stops no other. -/
def flushPendingGroupReplies (replies : List ResumeCommand) : Proc σ PUnit :=
  Task.forEach replies fun reply => Task.failSoft do
    let _ ← redis (.xadd (.ctrlStream reply.header.targetAgentType) (.command (.resume reply)))

end

end ByFramework
