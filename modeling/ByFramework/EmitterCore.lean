import ByFramework.Effects

/-! Events on a session's data stream. -/

namespace ByFramework

namespace EventType

def answerDelta := "answerDelta"
def reasoningLogDelta := "reasoningLogDelta"
def appStreamResponse := "appStreamResponse"
def finalAnswer := "finalAnswer"
def orphanedReply := "orphanedReply"

end EventType

namespace SseMessageType

def text := "1002"
def thinkTitle := "3003"
def taskUserInput := "3013"

end SseMessageType

structure SseLayoutParams where
  content : String
  role : JsonValue
  contentType : String
  orderId : String
  parentOrderId : String

/-- `text || null` -/
def textOrNull (text : String) : JsonValue := if text = "" then .null else .string text

def sseLayout (params : SseLayoutParams) (id : String) (created : Int) : JsonObject :=
  [("id", .string id), ("created", .number created), ("model", .string ""),
    ("object", .string ""), ("contentType", .string params.contentType),
    ("orderId", textOrNull params.orderId), ("parentOrderId", textOrNull params.parentOrderId),
    ("choices", .array [.object
      [("index", .number 0), ("finish_reason", .string ""), ("delta", .object
        [("role", params.role), ("content", .string params.content),
          ("function_call", .null), ("tool_calls", .null)])]])]

section

variable {σ : Type}

def emitEvent (message : DataMessage) : Proc σ PUnit := do
  let timestamp ← dateNow
  let streamName := Key.sessionDataStream message.sessionId
  pipeline
    [.xadd streamName (.event { message with timestamp := timestamp }),
      .expire streamName defaultSessionTtl]

def buildSseLayout (params : SseLayoutParams) : Proc σ JsonObject := do
  let id ← plainId
  let now ← dateNow
  pure (sseLayout params (String.ofList (id.toList.map Char.toUpper)) (now / 1000))

/-- Emit `message` with the layout of `params` as its data. -/
def emitLayout (message : DataMessage) (params : SseLayoutParams) : Proc σ PUnit := do
  let data ← buildSseLayout params
  emitEvent { message with data := data }

end

end ByFramework
