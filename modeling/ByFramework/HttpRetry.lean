import ByFramework.Async.Alone
import ByFramework.HttpClientCore

/-!
How often a request is sent. Parsing happens where network errors are caught, so a response that
arrived and cannot be parsed counts as one that did not.
-/

namespace ByFramework

open Async

/-- Answer each fetch with the next of `outcomes`, and keep what was sent. -/
def serveHttp (outcomes : Nat → FetchOutcome) (sent : List FetchRequest) :
    (op : HttpOp) → op.Reply × List FetchRequest
  | .fetch request => (outcomes sent.length, sent ++ [request])
  | .sleep _ => ((), sent)

def RetryConfig.retryable (config : RetryConfig) : FetchOutcome → Bool
  | .failed _ | .aborted => true
  | .response response => !response.ok && response.status ∈ config.retryOnStatusCodes

def FetchResponse.Parses (response : FetchResponse) : Prop :=
  response.body = .empty ∨ ∃ content parsed, response.body = .text content parsed ∧
    (includes ((response.headers.lookup "content-type").getD "") "application/json" = true →
      parsed ≠ none)

namespace ByHttpClient

variable (client : ByHttpClient) (validUrl : String → Bool) (call : HttpCall)

/-- The rest of a request that was sent `sent.length` times. -/
def resume (outcomes : Nat → FetchOutcome) (retryCount : Nat) (sent : List FetchRequest) :
    (Except JsError HttpResponse × Unit) × List FetchRequest :=
  (Task.start (client.request validUrl call retryCount) ()).run (serveHttp outcomes) sent

def perform (outcomes : Nat → FetchOutcome) :
    (Except JsError HttpResponse × Unit) × List FetchRequest :=
  client.resume validUrl call outcomes 0 []

def leadingRetryable (outcomes : Nat → FetchOutcome) : Nat :=
  (List.range client.retryConfig.maxAttempts).findIdx fun attempt =>
    !client.retryConfig.retryable (outcomes attempt)

/-- A response arrives at attempt `attempt`, counted from zero, whose status ends the request. -/
def Settles (outcomes : Nat → FetchOutcome) (attempt : Nat) (response : FetchResponse) : Prop :=
  attempt < client.retryConfig.maxAttempts ∧
    (∀ earlier < attempt, client.retryConfig.retryable (outcomes earlier) = true) ∧
    outcomes attempt = .response response ∧
    client.retryConfig.retryable (.response response) = false

structure RetryLaw (outcomes : Nat → FetchOutcome) : Prop where
  count : (client.perform validUrl call outcomes).2.length =
    min client.retryConfig.maxAttempts (1 + client.leadingRetryable outcomes)
  settled : ∀ attempt response, client.Settles outcomes attempt response →
    (client.perform validUrl call outcomes).2.length = attempt + 1 ∧
    ∃ parsed, (client.perform validUrl call outcomes).1.1 = .ok parsed ∧
      parsed.statusCode = response.status

/-- The address can be built, and the response that ends the request can be parsed. -/
structure SettlesReadably (outcomes : Nat → FetchOutcome) : Prop where
  built : ∃ fullUrl, client.buildUrl validUrl call.url call.queryParams = .ok fullUrl
  readable : ∀ attempt response, client.Settles outcomes attempt response → response.Parses

end ByHttpClient

theorem result_response (arrived : FetchResponse) :
    (FetchOutcome.response arrived).result = parseResponse arrived := rfl

theorem parseResponse_status {response : FetchResponse} {parsed : HttpResponse}
    (made : parseResponse response = .ok parsed) :
    parsed.statusCode = response.status ∧ parsed.isSuccess = response.ok := by
  unfold parseResponse at made
  cases read : readData response with
  | error error => simp [read, Except.map] at made
  | ok data =>
      rw [read] at made
      cases made
      exact ⟨rfl, rfl⟩

theorem parseResponse_ok_iff {response : FetchResponse} :
    (∃ parsed, parseResponse response = .ok parsed) ↔ response.Parses := by
  obtain ⟨status, headers, body⟩ := response
  unfold parseResponse readData FetchResponse.Parses
  dsimp only
  generalize includes ((headers.lookup "content-type").getD "") "application/json" = isJson
  cases body with
  | empty => cases isJson <;> simp [ResponseBody.readJson, ResponseBody.readText, Except.map]
  | text content parsed =>
      cases isJson <;> cases parsed <;>
        simp [ResponseBody.readJson, ResponseBody.readText, Except.map]
  | broken error => cases isJson <;> simp [ResponseBody.readJson, ResponseBody.readText, Except.map]

namespace ByHttpClient

variable {client : ByHttpClient} {validUrl : String → Bool} {call : HttpCall}
  {outcomes : Nat → FetchOutcome}

def triesAgain (client : ByHttpClient) (outcome : FetchOutcome) : Bool :=
  match outcome.result with
  | .ok parsed =>
      !parsed.isSuccess && parsed.statusCode ∈ client.retryConfig.retryOnStatusCodes
  | .error _ => true

theorem run_sleep_bind {α : Type} (seconds : Rat) (next : Unit → HttpTask α)
    (sent : List FetchRequest) :
    (Task.start (sleep seconds >>= next) ()).run (serveHttp outcomes) sent =
      (Task.start (next ()) ()).run (serveHttp outcomes) sent := rfl

theorem start_attemptOnce (request : FetchRequest) :
    Task.start (attemptOnce request) () =
      @Prog.call httpEffects _ (.fetch request) fun outcome => .done (outcome.result, ()) := by
  change @Prog.call httpEffects _ (.fetch request) _ = _
  congr 1
  funext outcome
  change Task.start (match FetchOutcome.result outcome with
    | .ok parsed => pure parsed
    | .error error => throw error) () = _
  cases FetchOutcome.result outcome with
  | ok parsed => rfl
  | error error => rfl

/-- The outcome of one attempt as the client takes it, its error rewritten by `rename`. -/
def taken (rename : JsError → JsError) (outcome : FetchOutcome) : Except JsError HttpResponse :=
  outcome.result.mapError rename

theorem run_attempt_bind {α : Type} (request : FetchRequest) (rename : JsError → JsError)
    (next : Except JsError HttpResponse → HttpTask α) (sent : List FetchRequest) :
    (Task.start ((tryCatch
        (do
          let parsed ← attemptOnce request
          pure (Except.ok parsed))
        fun error => pure (Except.error (rename error))) >>= next) ()).run
        (serveHttp outcomes) sent =
      (Task.start (next (taken rename (outcomes sent.length))) ()).run (serveHttp outcomes)
        (sent ++ [request]) := by
  rw [Task.start_bind, Task.start_tryCatch, Task.start_bind, start_attemptOnce]
  simp only [Prog.call_bind, Prog.run, serveHttp, taken]
  cases (outcomes sent.length).result with
  | ok parsed => rfl
  | error error => rfl

/-- What a request returns or throws when `outcome` is its last. -/
def ending (client : ByHttpClient) (outcome : FetchOutcome) : Except JsError HttpResponse :=
  match taken client.lastError outcome with
  | .ok parsed => .ok parsed
  | .error error => .error ⟨"HttpRequestError", "Request failed after " ++
      toString client.retryConfig.maxAttempts ++ " attempts: " ++ error.toText⟩

theorem resume_eq {fullUrl : FetchUrl}
    (built : client.buildUrl validUrl call.url call.queryParams = .ok fullUrl) (retryCount : Nat)
    (sent : List FetchRequest) :
    client.resume validUrl call outcomes retryCount sent =
      if client.triesAgain (outcomes sent.length) = true ∧
          retryCount + 1 < client.retryConfig.maxAttempts then
        client.resume validUrl call outcomes (retryCount + 1)
          (sent ++ [client.fetchRequest call fullUrl])
      else ((client.ending (outcomes sent.length), ()),
        sent ++ [client.fetchRequest call fullUrl]) := by
  unfold resume
  rw [request]
  simp only [built]
  rw [run_attempt_bind]
  unfold ending triesAgain taken
  cases (outcomes sent.length).result with
  | ok parsed =>
      simp only [Except.mapError]
      by_cases success : parsed.isSuccess = true
      · rw [if_pos success, if_neg (by simp [success])]
        rfl
      · rw [if_neg success]
        rw [Bool.not_eq_true] at success
        by_cases more : parsed.statusCode ∈ client.retryConfig.retryOnStatusCodes ∧
            retryCount + 1 < client.retryConfig.maxAttempts
        · rw [dif_pos more, if_pos (by simpa [success] using more), run_sleep_bind]
        · rw [dif_neg more, if_neg (by simpa [success] using more)]
          rfl
  | error error =>
      simp only [Except.mapError, true_and]
      by_cases more : retryCount + 1 < client.retryConfig.maxAttempts
      · rw [dif_pos more, if_pos more, run_sleep_bind]
      · rw [dif_neg more, if_neg more]
        rfl

theorem perform_of_last {fullUrl : FetchUrl}
    (built : client.buildUrl validUrl call.url call.queryParams = .ok fullUrl) {last : Nat}
    (before : ∀ earlier < last, client.triesAgain (outcomes earlier) = true)
    (within : last < client.retryConfig.maxAttempts)
    (ends : client.triesAgain (outcomes last) = false ∨
      last + 1 = client.retryConfig.maxAttempts) :
    (client.perform validUrl call outcomes).2.length = last + 1 ∧
      (client.perform validUrl call outcomes).1.1 = client.ending (outcomes last) := by
  have goes (left retryCount : Nat) (sent : List FetchRequest) (made : sent.length = retryCount)
      (distance : retryCount + left = last) :
      (client.resume validUrl call outcomes retryCount sent).2.length = last + 1 ∧
        (client.resume validUrl call outcomes retryCount sent).1.1 =
          client.ending (outcomes last) := by
    induction left generalizing retryCount sent with
    | zero =>
        obtain rfl : retryCount = last := by omega
        have stops : ¬(client.triesAgain (outcomes retryCount) = true ∧
            retryCount + 1 < client.retryConfig.maxAttempts) := by
          rintro ⟨again, more⟩
          rcases ends with final | exhausted
          · rw [final] at again
            cases again
          · omega
        rw [resume_eq built, made, if_neg stops]
        simp [made]
    | succ left ih =>
        rw [resume_eq built, made, if_pos ⟨before retryCount (by omega), by omega⟩]
        apply ih (retryCount + 1)
        · simp [made]
        · omega
  exact goes last 0 [] rfl (by omega)

theorem last_attempt (client : ByHttpClient) (outcomes : Nat → FetchOutcome) {first : Nat}
    (within : first < client.retryConfig.maxAttempts)
    (before : ∀ earlier < first, client.triesAgain (outcomes earlier) = true) :
    ∃ last, first ≤ last ∧ last < client.retryConfig.maxAttempts ∧
      (∀ earlier < last, client.triesAgain (outcomes earlier) = true) ∧
      (client.triesAgain (outcomes last) = false ∨
        last + 1 = client.retryConfig.maxAttempts) := by
  obtain ⟨left, distance⟩ : ∃ left, client.retryConfig.maxAttempts = first + 1 + left :=
    ⟨client.retryConfig.maxAttempts - (first + 1), by omega⟩
  induction left generalizing first with
  | zero => exact ⟨first, Nat.le_refl _, within, before, .inr (by omega)⟩
  | succ left ih =>
      by_cases again : client.triesAgain (outcomes first) = true
      · have beforeNext : ∀ earlier < first + 1,
            client.triesAgain (outcomes earlier) = true := by
          intro earlier sooner
          by_cases same : earlier = first
          · rw [same]
            exact again
          · exact before earlier (by omega)
        obtain ⟨last, later, rest⟩ := @ih (first + 1) (by omega) beforeNext (by omega)
        exact ⟨last, by omega, rest⟩
      · exact ⟨first, Nat.le_refl _, within, before, .inl (by simpa using again)⟩

/-! ### The law -/

theorem triesAgain_of_retryable {outcome : FetchOutcome}
    (retry : client.retryConfig.retryable outcome = true) : client.triesAgain outcome = true := by
  unfold triesAgain
  cases outcome with
  | failed error => rfl
  | aborted => rfl
  | response arrived =>
      rw [result_response]
      cases parsing : parseResponse arrived with
      | error error => rfl
      | ok parsed =>
          obtain ⟨status, success⟩ := parseResponse_status parsing
          simp only [RetryConfig.retryable] at retry
          simpa only [status, success] using retry

theorem triesAgain_of_settled {response : FetchResponse}
    (final : client.retryConfig.retryable (.response response) = false) :
    client.triesAgain (.response response) = false ↔ response.Parses := by
  rw [← parseResponse_ok_iff]
  unfold triesAgain
  rw [result_response]
  cases parsing : parseResponse response with
  | error error => simp
  | ok parsed =>
      obtain ⟨status, success⟩ := parseResponse_status parsing
      simp only [RetryConfig.retryable] at final
      simpa only [status, success, Except.ok.injEq, exists_eq', iff_true] using final

theorem ending_of_settled {response : FetchResponse} (parses : response.Parses) :
    ∃ parsed, client.ending (.response response) = .ok parsed ∧
      parsed.statusCode = response.status := by
  obtain ⟨parsed, parsing⟩ := parseResponse_ok_iff.mpr parses
  refine ⟨parsed, ?_, (parseResponse_status parsing).1⟩
  simp [ending, taken, result_response, parsing, Except.mapError]

theorem leadingRetryable_spec (client : ByHttpClient) (outcomes : Nat → FetchOutcome) :
    client.leadingRetryable outcomes ≤ client.retryConfig.maxAttempts ∧
    (∀ earlier < client.leadingRetryable outcomes,
      client.retryConfig.retryable (outcomes earlier) = true) ∧
    (client.leadingRetryable outcomes < client.retryConfig.maxAttempts →
      client.retryConfig.retryable (outcomes (client.leadingRetryable outcomes)) = false) := by
  unfold leadingRetryable
  refine ⟨?_, ?_, ?_⟩
  · have bounded := @List.findIdx_le_length _
      (fun attempt => !client.retryConfig.retryable (outcomes attempt))
      (List.range client.retryConfig.maxAttempts)
    simpa using bounded
  · intro earlier sooner
    have listed := List.not_of_lt_findIdx sooner
    simpa using listed
  · intro found
    have listed := @List.findIdx_getElem _
      (fun attempt => !client.retryConfig.retryable (outcomes attempt))
      (List.range client.retryConfig.maxAttempts) (by simpa using found)
    simpa using listed

theorem RetryLaw.built {validUrl : String → Bool} {call : HttpCall} {outcomes : Nat → FetchOutcome}
    (law : client.RetryLaw validUrl call outcomes) (attempts : 1 ≤ client.retryConfig.maxAttempts) :
    ∃ fullUrl, client.buildUrl validUrl call.url call.queryParams = .ok fullUrl := by
  cases building : client.buildUrl validUrl call.url call.queryParams with
  | ok fullUrl => exact ⟨fullUrl, rfl⟩
  | error error =>
      have unsent : client.perform validUrl call outcomes = ((.error error, ()), []) := by
        unfold perform resume
        rw [request]
        simp only [building]
        rfl
      have count := law.count
      rw [unsent] at count
      simp only [List.length_nil] at count
      omega

theorem RetryLaw.parses {validUrl : String → Bool} {call : HttpCall}
    {outcomes : Nat → FetchOutcome} (law : client.RetryLaw validUrl call outcomes)
    {fullUrl : FetchUrl} (built : client.buildUrl validUrl call.url call.queryParams = .ok fullUrl)
    {attempt : Nat} {response : FetchResponse}
    (settles : client.Settles outcomes attempt response) : response.Parses := by
  obtain ⟨sentOnce, parsed, returned, _⟩ := law.settled attempt response settles
  obtain ⟨within, before, arrived, final⟩ := settles
  obtain ⟨last, later, lastWithin, lastBefore, ends⟩ := last_attempt client outcomes within
    fun earlier sooner => triesAgain_of_retryable (before earlier sooner)
  obtain ⟨count, result⟩ := perform_of_last built lastBefore lastWithin ends
  obtain rfl : last = attempt := by omega
  rw [returned, arrived] at result
  unfold ending taken at result
  rw [result_response] at result
  cases parsing : parseResponse response with
  | ok value => exact parseResponse_ok_iff.mp ⟨value, parsing⟩
  | error error =>
      rw [parsing] at result
      cases result

theorem SettlesReadably.settled {validUrl : String → Bool} {call : HttpCall}
    {outcomes : Nat → FetchOutcome} (readably : client.SettlesReadably validUrl call outcomes)
    (attempt : Nat) (response : FetchResponse)
    (settles : client.Settles outcomes attempt response) :
    (client.perform validUrl call outcomes).2.length = attempt + 1 ∧
      ∃ parsed, (client.perform validUrl call outcomes).1.1 = .ok parsed ∧
        parsed.statusCode = response.status := by
  obtain ⟨fullUrl, built⟩ := readably.built
  have parses := readably.readable attempt response settles
  obtain ⟨within, before, arrived, final⟩ := settles
  have stops : client.triesAgain (outcomes attempt) = false := by
    rw [arrived]
    exact (triesAgain_of_settled final).mpr parses
  obtain ⟨count, result⟩ := perform_of_last built
    (fun earlier sooner => triesAgain_of_retryable (before earlier sooner)) within (.inl stops)
  refine ⟨count, ?_⟩
  rw [result, arrived]
  exact ending_of_settled parses

theorem SettlesReadably.count {validUrl : String → Bool} {call : HttpCall}
    {outcomes : Nat → FetchOutcome} (readably : client.SettlesReadably validUrl call outcomes)
    (attempts : 1 ≤ client.retryConfig.maxAttempts) :
    (client.perform validUrl call outcomes).2.length =
      min client.retryConfig.maxAttempts (1 + client.leadingRetryable outcomes) := by
  obtain ⟨fullUrl, built⟩ := readably.built
  obtain ⟨bounded, leading, next⟩ := leadingRetryable_spec client outcomes
  by_cases some : client.leadingRetryable outcomes < client.retryConfig.maxAttempts
  · have final := next some
    cases arrived : outcomes (client.leadingRetryable outcomes) with
    | failed error => simp [arrived, RetryConfig.retryable] at final
    | aborted => simp [arrived, RetryConfig.retryable] at final
    | response response =>
        rw [arrived] at final
        rw [(readably.settled _ response ⟨some, leading, arrived, final⟩).1]
        omega
  · have all : client.leadingRetryable outcomes = client.retryConfig.maxAttempts := by omega
    rw [all] at leading ⊢
    have before : ∀ earlier < client.retryConfig.maxAttempts - 1,
        client.triesAgain (outcomes earlier) = true :=
      fun earlier sooner => triesAgain_of_retryable (leading earlier (by omega))
    obtain ⟨count, _⟩ := perform_of_last built before (by omega) (.inr (by omega))
    rw [count]
    omega

end ByHttpClient

open ByHttpClient in
/-- A request is sent once more for each retryable outcome, and no more, exactly when the response
that ends it can be parsed. -/
theorem retry_law_iff (client : ByHttpClient) (validUrl : String → Bool) (call : HttpCall)
    (outcomes : Nat → FetchOutcome) (attempts : 1 ≤ client.retryConfig.maxAttempts) :
    client.RetryLaw validUrl call outcomes ↔ client.SettlesReadably validUrl call outcomes := by
  constructor
  · intro law
    obtain ⟨fullUrl, built⟩ := law.built attempts
    exact ⟨⟨fullUrl, built⟩, fun _ _ settles => law.parses built settles⟩
  · intro readably
    exact ⟨readably.count attempts, readably.settled⟩

/-! ### A request that succeeds twice -/

def orderClient : ByHttpClient := { baseUrl := "https://api.example.com" }

def createOrder : HttpCall :=
  { method := "POST", url := "/orders", json := some [("item", .string "book")] }

/-- The order was created, but the text of the answer is not JSON. -/
def createdUnparsably : FetchResponse :=
  { status := 201, headers := [("content-type", "application/json")], body := .text "OK" none }

def created : FetchResponse :=
  { createdUnparsably with body := .text "null" (some .null) }

theorem created_order_sent_once :
    1 ≤ orderClient.retryConfig.maxAttempts ∧
    orderClient.RetryLaw (fun _ => true) createOrder fun _ => .response created := by
  refine ⟨by decide, (retry_law_iff orderClient (fun _ => true) createOrder _ (by decide)).mpr
    ⟨⟨_, rfl⟩, ?_⟩⟩
  rintro attempt response ⟨_, _, arrived, _⟩
  obtain rfl : created = response := by simpa using arrived
  exact .inr ⟨"null", some .null, rfl, fun _ => by simp⟩

/-- A request that succeeded is sent again when its answer cannot be parsed. -/
theorem created_order_sent_twice :
    ¬orderClient.RetryLaw (fun _ => true) createOrder fun attempt =>
      .response (if attempt = 0 then createdUnparsably else created) := by
  intro law
  obtain ⟨once, _⟩ := law.settled 0 createdUnparsably
    ⟨by decide, fun earlier sooner => absurd sooner (Nat.not_lt_zero earlier), rfl, by decide⟩
  have again : orderClient.triesAgain (.response createdUnparsably) = true := by decide
  have stops : orderClient.triesAgain (.response created) = false := by decide
  let outcomes (attempt : Nat) : FetchOutcome :=
    .response (if attempt = 0 then createdUnparsably else created)
  have before : ∀ earlier < 1, orderClient.triesAgain (outcomes earlier) = true := by
    intro earlier sooner
    obtain rfl : earlier = 0 := by omega
    exact again
  have built : orderClient.buildUrl (fun _ => true) createOrder.url createOrder.queryParams =
      .ok _ := rfl
  obtain ⟨twice, _⟩ := ByHttpClient.perform_of_last built before (by decide) (.inl stops)
  have counts : 0 + 1 = 1 + 1 := once.symm.trans twice
  omega

end ByFramework
