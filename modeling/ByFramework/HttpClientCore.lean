import ByFramework.Async.Program
import ByFramework.Protocol
import Mathlib.Algebra.Order.Field.Rat

/-!
The HTTP client: what one attempt sends, how its response is parsed, and the retries. `fetch` and
the pauses between attempts are awaited; a response's body can be read once.
-/

namespace ByFramework

open Async

abbrev HttpHeaders := List (String × String)

/-- `new RetryConfig(...)`; the delays are in seconds. -/
structure RetryConfig where
  maxAttempts : Nat := 3
  initialDelay : Rat := 1 / 2
  maxDelay : Rat := 30
  backoffMultiplier : Rat := 2
  retryOnStatusCodes : List Nat := [429, 500, 502, 503, 504]

def calculateDelay (attempt : Nat) (config : RetryConfig) : Rat :=
  min (config.initialDelay * config.backoffMultiplier ^ (attempt - 1)) config.maxDelay

/-- A base address, and a strategy that puts the credentials into the headers. -/
structure ByHttpClient where
  baseUrl : String
  defaultHeaders : HttpHeaders := []
  auth : HttpHeaders → HttpHeaders := id
  timeout : Nat := 30
  retryConfig : RetryConfig := {}

structure HttpCall where
  method : String
  url : String
  headers : HttpHeaders := []
  queryParams : List (String × String) := []
  json : Option JsonObject := none
  data : Option JsonObject := none

/-- An address with the parameters appended to its query. -/
structure FetchUrl where
  path : String
  query : List (String × String) := []
deriving DecidableEq, Repr

inductive RequestBody where
  | json (fields : JsonObject)
  | form (fields : JsonObject)

structure FetchRequest where
  method : String
  url : FetchUrl
  headers : HttpHeaders
  body : Option RequestBody

/-- The body of a response: none at all, a text with what `JSON.parse` makes of it, or a stream
that breaks off while it is read. -/
inductive ResponseBody where
  | empty
  | text (content : String) (parsed : Option JsonValue)
  | broken (error : JsError)

structure FetchResponse where
  status : Nat
  headers : HttpHeaders
  body : ResponseBody

/-- `response.ok` -/
def FetchResponse.ok (response : FetchResponse) : Bool :=
  200 ≤ response.status && response.status ≤ 299

inductive FetchOutcome where
  | failed (error : JsError)
  | aborted
  | response (response : FetchResponse)

inductive HttpData where
  | json (value : JsonValue)
  | text (content : String)

structure HttpResponse where
  statusCode : Nat
  headers : HttpHeaders
  data : HttpData
  isSuccess : Bool

/-! ### Reading the body -/

namespace ResponseBody

/-- `response.text()`; a body that was read before is gone. -/
def readText (used : Bool) : ResponseBody → Except JsError String
  | .empty => .ok ""
  | .text content _ =>
      if used then .error ⟨"TypeError", "Body is unusable: Body has already been read"⟩
      else .ok content
  | .broken error =>
      if used then .error ⟨"TypeError", "Body is unusable: Body has already been read"⟩
      else .error error

/-- `response.json()` on a body that was not read before. -/
def readJson : ResponseBody → Except JsError JsonValue
  | .text _ (some value) => .ok value
  | .text content none => .error ⟨"SyntaxError", "Unexpected token in JSON: " ++ content⟩
  | .empty => .error ⟨"SyntaxError", "Unexpected end of JSON input"⟩
  | .broken error => .error error

end ResponseBody

/-- `text.includes(part)` -/
def includes (text part : String) : Bool := text.toList.tails.any part.toList.isPrefixOf

/-- The data of a response: JSON if it calls itself so, and text where that fails. -/
def readData (response : FetchResponse) : Except JsError HttpData :=
  let contentType := (response.headers.lookup "content-type").getD ""
  if includes contentType "application/json" then
    match response.body.readJson with
    | .ok value => .ok (.json value)
    | .error _ => (response.body.readText true).map .text
  else (response.body.readText false).map .text

def parseResponse (response : FetchResponse) : Except JsError HttpResponse :=
  (readData response).map fun data =>
    { statusCode := response.status
      headers := response.headers
      data := data
      isSuccess := response.ok }

def FetchOutcome.result : FetchOutcome → Except JsError HttpResponse
  | .failed error => .error error
  | .aborted => .error ⟨"AbortError", "This operation was aborted"⟩
  | .response arrived => parseResponse arrived

/-! ### One request -/

inductive HttpOp where
  | fetch (request : FetchRequest)
  | sleep (seconds : Rat)

@[reducible] def HttpOp.Reply : HttpOp → Type
  | .fetch _ => FetchOutcome
  | .sleep _ => Unit

abbrev httpEffects : Signature := ⟨HttpOp, HttpOp.Reply⟩

abbrev HttpTask := Task httpEffects JsError Unit

def fetch (request : FetchRequest) : HttpTask FetchOutcome :=
  @Task.await httpEffects JsError Unit (.fetch request)

def sleep (seconds : Rat) : HttpTask Unit :=
  @Task.await httpEffects JsError Unit (.sleep seconds)

/-- `object[name] = value` -/
def setHeader (name value : String) : HttpHeaders → HttpHeaders
  | [] => [(name, value)]
  | header :: rest =>
      if header.1 = name then (name, value) :: rest else header :: setHeader name value rest

def assignHeaders (added headers : HttpHeaders) : HttpHeaders :=
  added.foldl (fun merged header => setHeader header.1 header.2 merged) headers

/-- Give the body a content type where the caller gave none. -/
def ensureContentType (contentType : String) (headers : HttpHeaders) : HttpHeaders :=
  if (headers.lookup "Content-Type").getD "" = "" then
    setHeader "Content-Type" contentType headers
  else headers

namespace ByHttpClient

variable (client : ByHttpClient) (validUrl : String → Bool)

/-- `validUrl` tells where `new URL` does not throw. -/
def buildUrl (urlPath : String) (queryParams : List (String × String)) : Except JsError FetchUrl :=
  let normalizedPath :=
    if "http".toList.isPrefixOf urlPath.toList then urlPath
    else client.baseUrl ++ "/" ++ String.ofList (urlPath.toList.dropWhile (· = '/'))
  if queryParams = [] then .ok { path := normalizedPath }
  else if validUrl normalizedPath then .ok { path := normalizedPath, query := queryParams }
  else .error ⟨"TypeError", "Invalid URL"⟩

def fetchRequest (call : HttpCall) (fullUrl : FetchUrl) : FetchRequest :=
  let mergedHeaders := assignHeaders call.headers (client.auth client.defaultHeaders)
  let withJson :=
    if call.json.isSome then ensureContentType "application/json" mergedHeaders
    else mergedHeaders
  { method := call.method
    url := fullUrl
    headers :=
      if call.data.isSome then ensureContentType "application/x-www-form-urlencoded" withJson
      else withJson
    body := (call.json.map .json).orElse fun _ => call.data.map .form }

/-- Send one attempt and parse what comes back; both may throw. -/
def attemptOnce (request : FetchRequest) : HttpTask HttpResponse := do
  match (← fetch request).result with
  | .ok parsed => pure parsed
  | .error error => throw error

def lastError (error : JsError) : JsError :=
  if error.name = "AbortError" then
    ⟨"Error", "Request timeout after " ++ toString client.timeout ++ "s"⟩
  else error

/-- Execute a request with retries, from the attempt after the first `retryCount` on. -/
def request (call : HttpCall) (retryCount : Nat) : HttpTask HttpResponse := do
  let attempt := retryCount + 1
  match client.buildUrl validUrl call.url call.queryParams with
  | .error error => throw error
  | .ok fullUrl =>
      let outcome ← tryCatch
        (do
          let parsed ← attemptOnce (client.fetchRequest call fullUrl)
          pure (Except.ok parsed))
        fun error => pure (Except.error (client.lastError error))
      match outcome with
      | .ok parsed =>
          if parsed.isSuccess then pure parsed
          else if _ : parsed.statusCode ∈ client.retryConfig.retryOnStatusCodes ∧
              attempt < client.retryConfig.maxAttempts then
            sleep (calculateDelay attempt client.retryConfig)
            request call attempt
          else pure parsed
      | .error error =>
          if _ : attempt < client.retryConfig.maxAttempts then
            sleep (calculateDelay attempt client.retryConfig)
            request call attempt
          else
            throw ⟨"HttpRequestError", "Request failed after " ++
              toString client.retryConfig.maxAttempts ++ " attempts: " ++ error.toText⟩
termination_by client.retryConfig.maxAttempts - retryCount

end ByHttpClient

end ByFramework
