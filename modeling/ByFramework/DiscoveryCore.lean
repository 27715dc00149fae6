import ByFramework.Collections.InsertionMap
import ByFramework.HttpClientCore
import Mathlib.Data.Rat.Floor

/-!
The HTTP client over service discovery: the choice of an instance, and the retries. What the
registry lists, what `Math.random` draws and what the underlying client answers are awaited.
-/

namespace ByFramework

open Async Collections

structure ServiceInstance where
  id : String
  host : String
  port : Nat
deriving DecidableEq, Repr

inductive DiscoveryStrategy where
  | random
  | roundRobin
deriving DecidableEq, Repr

inductive ServiceCall where
  | request (call : HttpCall)
  | download (url destination : String) (headers : HttpHeaders)
      (queryParams : List (String × String))
  | uploadMultiple (url : String) (filePaths : List String) (fileField : Option String)
      (headers : HttpHeaders) (formFields : List (String × String))
  | uploadWithStream (url fileName : String) (content : List UInt8)
      (fileField contentType : Option String) (headers : HttpHeaders)
      (formFields : List (String × String))

/-- What `Math.random` returns. -/
abbrev RandomDraw := { drawn : ℚ // 0 ≤ drawn ∧ drawn < 1 }

/-- A call is awaited with the instance whose address it has. -/
inductive DiscoveryOp where
  | getInstances (serviceName : String)
  | random
  | perform (chosen : ServiceInstance) (call : ServiceCall)
  | sleep (seconds : ℚ)

@[reducible] def DiscoveryOp.Reply : DiscoveryOp → Type
  | .getInstances _ => List ServiceInstance
  | .random => RandomDraw
  | .perform _ _ => Except JsError HttpResponse
  | .sleep _ => Unit

abbrev discoveryEffects : Signature := ⟨DiscoveryOp, DiscoveryOp.Reply⟩

structure DiscoveryClient where
  rrCounters : InsertionMap String Nat := .empty

abbrev DiscoveryTask := Task discoveryEffects JsError DiscoveryClient

def getInstances (serviceName : String) : DiscoveryTask (List ServiceInstance) :=
  @Task.await discoveryEffects JsError DiscoveryClient (.getInstances serviceName)

def mathRandom : DiscoveryTask RandomDraw :=
  @Task.await discoveryEffects JsError DiscoveryClient .random

def performCall (chosen : ServiceInstance) (call : ServiceCall) :
    DiscoveryTask (Except JsError HttpResponse) :=
  @Task.await discoveryEffects JsError DiscoveryClient (.perform chosen call)

def pauseFor (seconds : ℚ) : DiscoveryTask Unit :=
  @Task.await discoveryEffects JsError DiscoveryClient (.sleep seconds)

/-- `instances[Math.floor(drawn * instances.length)]` -/
def pickInstance (instances : List ServiceInstance) (drawn : RandomDraw) :
    Option ServiceInstance :=
  instances[⌊drawn.val * instances.length⌋₊]?

def discover (serviceName : String) (strategy : DiscoveryStrategy) :
    DiscoveryTask (Option ServiceInstance) := do
  let instances ← getInstances serviceName
  if instances.isEmpty then pure none
  else
    match strategy with
    | .random => do
        let drawn ← mathRandom
        pure (pickInstance instances drawn)
    | .roundRobin => do
        let client ← get
        let counter := (client.rrCounters.get? serviceName).getD 0
        set { client with rrCounters := client.rrCounters.set serviceName (counter + 1) }
        pure instances[counter % instances.length]?

def ServiceInstance.absoluteUrl (chosen : ServiceInstance) (path : String) : String :=
  "http://" ++ chosen.host ++ ":" ++ toString chosen.port ++ "/" ++
    String.ofList (path.toList.dropWhile (· = '/'))

def noInstances (serviceName : String) : JsError :=
  ⟨"DiscoveryHttpClientError", "No available instances for service: " ++ serviceName⟩

def serviceFailed (what : String) (maxAttempts : Nat) (lastError : Option JsError) : JsError :=
  ⟨"DiscoveryHttpClientError", "Service " ++ what ++ " failed after " ++ toString maxAttempts ++
    " attempts" ++
    match lastError with
    | some error => ": " ++ error.toText
    | none => "."⟩

namespace DiscoveryHttpClient

variable (retryConfig : RetryConfig)

/-- A response that is not retried. -/
def returnsAt (response : HttpResponse) : Bool :=
  response.isSuccess || response.statusCode ∉ retryConfig.retryOnStatusCodes

def attemptResult : Except JsError HttpResponse → Except (Option JsError) HttpResponse
  | .ok response => if returnsAt retryConfig response then .ok response else .error none
  | .error error => .error (some error)

def requestWithDiscovery (serviceName : String) (call : HttpCall) (retryCount : Nat)
    (excludeInstanceIds : List String) : DiscoveryTask HttpResponse := do
  match ← discover serviceName .random with
  | none => throw (noInstances serviceName)
  | some chosen =>
      let attempt := retryCount + 1
      let outcome ← performCall chosen
        (.request { call with url := chosen.absoluteUrl call.url })
      match attemptResult retryConfig outcome with
      | .ok response => pure response
      | .error lastError =>
          if _ : attempt < retryConfig.maxAttempts then
            pauseFor (calculateDelay attempt retryConfig)
            requestWithDiscovery serviceName call attempt
              (excludeInstanceIds.insert chosen.id)
          else throw (serviceFailed "request" retryConfig.maxAttempts lastError)
termination_by retryConfig.maxAttempts - retryCount

/-- The body that downloads and uploads share; `what` is their name in the error. -/
def callService (what serviceName path : String) (call : String → ServiceCall)
    (retryCount : Nat) : DiscoveryTask HttpResponse := do
  match ← discover serviceName .random with
  | none => throw (noInstances serviceName)
  | some chosen =>
      let attempt := retryCount + 1
      let outcome ← performCall chosen (call (chosen.absoluteUrl path))
      match attemptResult retryConfig outcome with
      | .ok response => pure response
      | .error lastError =>
          if _ : attempt < retryConfig.maxAttempts then
            pauseFor (calculateDelay attempt retryConfig)
            callService what serviceName path call attempt
          else throw (serviceFailed what retryConfig.maxAttempts lastError)
termination_by retryConfig.maxAttempts - retryCount

def download (serviceName path destination : String) (headers : HttpHeaders)
    (queryParams : List (String × String)) (retryCount : Nat) : DiscoveryTask HttpResponse :=
  callService retryConfig "download" serviceName path
    (fun url => .download url destination headers queryParams) retryCount

def uploadMultiple (serviceName path : String) (filePaths : List String)
    (fileField : Option String) (headers : HttpHeaders) (formFields : List (String × String))
    (retryCount : Nat) : DiscoveryTask HttpResponse :=
  callService retryConfig "upload" serviceName path
    (fun url => .uploadMultiple url filePaths fileField headers formFields) retryCount

def upload (serviceName path filePath : String) (fileField : Option String)
    (headers : HttpHeaders) (formFields : List (String × String)) (retryCount : Nat) :
    DiscoveryTask HttpResponse :=
  uploadMultiple retryConfig serviceName path [filePath] fileField headers formFields retryCount

def uploadWithStream (serviceName path fileName : String) (content : List UInt8)
    (fileField contentType : Option String) (headers : HttpHeaders)
    (formFields : List (String × String)) (retryCount : Nat) : DiscoveryTask HttpResponse :=
  callService retryConfig "upload" serviceName path
    (fun url => .uploadWithStream url fileName content fileField contentType headers formFields)
    retryCount

end DiscoveryHttpClient

inductive ServiceRequest where
  | get (path : String) (headers : HttpHeaders) (queryParams : List (String × String))
  | post (path : String) (headers : HttpHeaders) (json data : Option JsonObject)
  | put (path : String) (headers : HttpHeaders) (json data : Option JsonObject)
  | patch (path : String) (headers : HttpHeaders) (json data : Option JsonObject)
  | delete (path : String) (headers : HttpHeaders) (queryParams : List (String × String))
  | download (path destination : String) (headers : HttpHeaders)
      (queryParams : List (String × String)) (retryCount : Nat)
  | upload (path filePath : String) (fileField : Option String) (headers : HttpHeaders)
      (formFields : List (String × String)) (retryCount : Nat)
  | uploadMultiple (path : String) (filePaths : List String) (fileField : Option String)
      (headers : HttpHeaders) (formFields : List (String × String)) (retryCount : Nat)
  | uploadWithStream (path fileName : String) (content : List UInt8)
      (fileField contentType : Option String) (headers : HttpHeaders)
      (formFields : List (String × String)) (retryCount : Nat)

namespace ServiceRequest

def retryCount : ServiceRequest → Nat
  | .get .. | .post .. | .put .. | .patch .. | .delete .. => 0
  | .download _ _ _ _ retryCount | .upload _ _ _ _ _ retryCount
  | .uploadMultiple _ _ _ _ _ retryCount | .uploadWithStream _ _ _ _ _ _ _ retryCount =>
      retryCount

open DiscoveryHttpClient

def task (retryConfig : RetryConfig) (serviceName : String) :
    ServiceRequest → DiscoveryTask HttpResponse
  | .get path headers queryParams =>
      requestWithDiscovery retryConfig serviceName
        { method := "GET", url := path, headers := headers, queryParams := queryParams } 0 []
  | .post path headers json data =>
      requestWithDiscovery retryConfig serviceName
        { method := "POST", url := path, headers := headers, json := json, data := data } 0 []
  | .put path headers json data =>
      requestWithDiscovery retryConfig serviceName
        { method := "PUT", url := path, headers := headers, json := json, data := data } 0 []
  | .patch path headers json data =>
      requestWithDiscovery retryConfig serviceName
        { method := "PATCH", url := path, headers := headers, json := json, data := data } 0 []
  | .delete path headers queryParams =>
      requestWithDiscovery retryConfig serviceName
        { method := "DELETE", url := path, headers := headers, queryParams := queryParams } 0 []
  | .download path destination headers queryParams retryCount =>
      DiscoveryHttpClient.download retryConfig serviceName path destination headers queryParams
        retryCount
  | .upload path filePath fileField headers formFields retryCount =>
      DiscoveryHttpClient.upload retryConfig serviceName path filePath fileField headers formFields
        retryCount
  | .uploadMultiple path filePaths fileField headers formFields retryCount =>
      DiscoveryHttpClient.uploadMultiple retryConfig serviceName path filePaths fileField headers
        formFields retryCount
  | .uploadWithStream path fileName content fileField contentType headers formFields retryCount =>
      DiscoveryHttpClient.uploadWithStream retryConfig serviceName path fileName content fileField
        contentType headers formFields retryCount

end ServiceRequest

end ByFramework
