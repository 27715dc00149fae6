import ByFramework.Async.Alone
import ByFramework.DiscoveryCore

/-! Which instances the attempts of one request go to. -/

namespace ByFramework

open Async

/-- The instances that attempts were sent to, and how many numbers were drawn. -/
structure AttemptLog where
  sent : List ServiceInstance := []
  drawn : Nat := 0

def serveDiscovery (instances : List ServiceInstance) (draws : Nat → RandomDraw)
    (outcomes : Nat → Except JsError HttpResponse) (log : AttemptLog) :
    (op : DiscoveryOp) → op.Reply × AttemptLog
  | .getInstances _ => (instances, log)
  | .random => (draws log.drawn, { log with drawn := log.drawn + 1 })
  | .perform chosen _ => (outcomes log.sent.length, { log with sent := log.sent ++ [chosen] })
  | .sleep _ => ((), log)

namespace ServiceRequest

def sentTo (request : ServiceRequest) (retryConfig : RetryConfig) (serviceName : String)
    (client : DiscoveryClient) (instances : List ServiceInstance) (draws : Nat → RandomDraw)
    (outcomes : Nat → Except JsError HttpResponse) : List ServiceInstance :=
  ((Task.start (request.task retryConfig serviceName) client).run
    (serveDiscovery instances draws outcomes) ({} : AttemptLog)).2.sent

end ServiceRequest

/--
No attempt goes to an instance that has failed while another has not. An attempt is only followed
by another one if it failed.
-/
def SwitchesNodes (instances sent : List ServiceInstance) : Prop :=
  ∀ failed retried later, sent = failed ++ retried :: later →
    retried.id ∈ failed.map ServiceInstance.id →
    ∀ other ∈ instances, other.id ∈ failed.map ServiceInstance.id

/-! ### One attempt -/

theorem pickInstance_mem {instances : List ServiceInstance} (filled : instances ≠ [])
    (draw : RandomDraw) : ∃ chosen ∈ instances, pickInstance instances draw = some chosen := by
  obtain ⟨drawn, least, most⟩ := draw
  have positive : (0 : ℚ) < instances.length := by
    exact_mod_cast List.length_pos_iff.mpr filled
  have within : ⌊drawn * instances.length⌋₊ < instances.length := by
    rw [Nat.floor_lt (mul_nonneg least positive.le)]
    calc drawn * instances.length < 1 * instances.length :=
          mul_lt_mul_of_pos_right most positive
      _ = instances.length := one_mul _
  refine ⟨instances[⌊drawn * instances.length⌋₊], List.getElem_mem within, ?_⟩
  exact List.getElem?_eq_getElem within

theorem pickInstance_surjective {instances : List ServiceInstance} {chosen : ServiceInstance}
    (listed : chosen ∈ instances) : ∃ draw, pickInstance instances draw = some chosen := by
  obtain ⟨index, within, same⟩ := List.getElem_of_mem listed
  have positive : (0 : ℚ) < instances.length := by
    exact_mod_cast Nat.lt_of_le_of_lt (Nat.zero_le index) within
  have least : (0 : ℚ) ≤ index / instances.length := by positivity
  have most : (index : ℚ) / instances.length < 1 := by
    rw [div_lt_one positive]
    exact_mod_cast within
  refine ⟨⟨index / instances.length, least, most⟩, ?_⟩
  unfold pickInstance
  rw [div_mul_cancel₀ _ positive.ne', Nat.floor_natCast, List.getElem?_eq_getElem within, same]

section Attempts

variable {instances : List ServiceInstance} {draws : Nat → RandomDraw}
  {outcomes : Nat → Except JsError HttpResponse}

theorem run_discover {α : Type} (filled : instances ≠ []) (serviceName : String)
    (next : Option ServiceInstance → DiscoveryTask α) (client : DiscoveryClient)
    (log : AttemptLog) :
    (Task.start (discover serviceName .random >>= next) client).run
        (serveDiscovery instances draws outcomes) log =
      (Task.start (next (pickInstance instances (draws log.drawn))) client).run
        (serveDiscovery instances draws outcomes) { log with drawn := log.drawn + 1 } := by
  apply Task.run_bind_ok
  have some_left : instances.isEmpty = false := by
    cases instances with
    | nil => exact absurd rfl filled
    | cons first rest => rfl
  unfold discover
  have listed : (Task.start (getInstances serviceName) client).run
      (serveDiscovery instances draws outcomes) log = ((.ok instances, client), log) := rfl
  rw [Task.run_bind_ok listed, some_left]
  rfl

theorem run_performCall {α : Type} (chosen : ServiceInstance) (call : ServiceCall)
    (next : Except JsError HttpResponse → DiscoveryTask α) (client : DiscoveryClient)
    (log : AttemptLog) :
    (Task.start (performCall chosen call >>= next) client).run
        (serveDiscovery instances draws outcomes) log =
      (Task.start (next (outcomes log.sent.length)) client).run
        (serveDiscovery instances draws outcomes) { log with sent := log.sent ++ [chosen] } := rfl

theorem run_pauseFor {α : Type} (seconds : ℚ) (next : Unit → DiscoveryTask α)
    (client : DiscoveryClient) (log : AttemptLog) :
    (Task.start (pauseFor seconds >>= next) client).run
        (serveDiscovery instances draws outcomes) log =
      (Task.start (next ()) client).run (serveDiscovery instances draws outcomes) log := rfl

end Attempts

namespace DiscoveryHttpClient

theorem requestWithDiscovery_eq (retryConfig : RetryConfig) (serviceName : String)
    (call : HttpCall) (retryCount : Nat) (excludeInstanceIds : List String) :
    requestWithDiscovery retryConfig serviceName call retryCount excludeInstanceIds =
      callService retryConfig "request" serviceName call.url
        (fun url => .request { call with url := url }) retryCount := by
  have goes (left retryCount : Nat) (excludeInstanceIds : List String)
      (distance : retryConfig.maxAttempts - retryCount = left) :
      requestWithDiscovery retryConfig serviceName call retryCount excludeInstanceIds =
        callService retryConfig "request" serviceName call.url
          (fun url => .request { call with url := url }) retryCount := by
    induction left using Nat.strongRecOn generalizing retryCount excludeInstanceIds with
    | ind left ih =>
        rw [requestWithDiscovery, callService]
        congr 1
        funext found
        cases found with
        | none => rfl
        | some chosen =>
            dsimp only
            congr 1
            funext outcome
            cases attemptResult retryConfig outcome with
            | ok response => rfl
            | error lastError =>
                dsimp only
                by_cases more : retryCount + 1 < retryConfig.maxAttempts
                · rw [dif_pos more, dif_pos more,
                    ih _ (by omega) (retryCount + 1) _ rfl]
                · rw [dif_neg more, dif_neg more]
  exact goes _ retryCount excludeInstanceIds rfl

section Attempts

variable {instances : List ServiceInstance} {draws : Nat → RandomDraw}
  {outcomes : Nat → Except JsError HttpResponse} {retryConfig : RetryConfig}

def sentAfter (retryConfig : RetryConfig) (instances : List ServiceInstance)
    (draws : Nat → RandomDraw) (outcomes : Nat → Except JsError HttpResponse)
    (what serviceName path : String) (call : String → ServiceCall) (client : DiscoveryClient)
    (retryCount : Nat) (log : AttemptLog) : List ServiceInstance :=
  ((Task.start (callService retryConfig what serviceName path call retryCount) client).run
    (serveDiscovery instances draws outcomes) log).2.sent

theorem sentAfter_eq (what serviceName path : String) (call : String → ServiceCall)
    (client : DiscoveryClient) (retryCount : Nat) (log : AttemptLog) {chosen : ServiceInstance}
    (picked : pickInstance instances (draws log.drawn) = some chosen)
    (filled : instances ≠ []) :
    sentAfter retryConfig instances draws outcomes what serviceName path call client retryCount
        log =
      if (attemptResult retryConfig (outcomes log.sent.length)).toBool = false ∧
          retryCount + 1 < retryConfig.maxAttempts then
        sentAfter retryConfig instances draws outcomes what serviceName path call client
          (retryCount + 1) ⟨log.sent ++ [chosen], log.drawn + 1⟩
      else log.sent ++ [chosen] := by
  unfold sentAfter
  rw [callService, run_discover filled, picked]
  dsimp only
  rw [run_performCall]
  cases attemptResult retryConfig (outcomes log.sent.length) with
  | ok response => rfl
  | error lastError =>
      dsimp only
      by_cases more : retryCount + 1 < retryConfig.maxAttempts
      · rw [dif_pos more, if_pos ⟨rfl, more⟩, run_pauseFor]
      · rw [dif_neg more, if_neg fun both => more both.2]
        rfl

theorem sentAfter_grows (filled : instances ≠ []) (what serviceName path : String)
    (call : String → ServiceCall) (client : DiscoveryClient) (retryCount : Nat)
    (log : AttemptLog) :
    log.sent <+: sentAfter retryConfig instances draws outcomes what serviceName path call client
      retryCount log := by
  have goes (left retryCount : Nat) (log : AttemptLog)
      (distance : retryConfig.maxAttempts - retryCount = left) :
      log.sent <+: sentAfter retryConfig instances draws outcomes what serviceName path call client
        retryCount log := by
    induction left using Nat.strongRecOn generalizing retryCount log with
    | ind left ih =>
        obtain ⟨chosen, _, picked⟩ := pickInstance_mem filled (draws log.drawn)
        rw [sentAfter_eq what serviceName path call client retryCount log picked filled]
        split
        · rename_i again
          have later := ih _ (by omega) (retryCount + 1) ⟨log.sent ++ [chosen], log.drawn + 1⟩ rfl
          exact (List.prefix_append _ _).trans later
        · exact List.prefix_append _ _
  exact goes _ retryCount log rfl

theorem sentAfter_listed (filled : instances ≠ []) (what serviceName path : String)
    (call : String → ServiceCall) (client : DiscoveryClient) (retryCount : Nat)
    (log : AttemptLog) (known : ∀ chosen ∈ log.sent, chosen ∈ instances) :
    ∀ chosen ∈ sentAfter retryConfig instances draws outcomes what serviceName path call client
      retryCount log, chosen ∈ instances := by
  have goes (left retryCount : Nat) (log : AttemptLog)
      (known : ∀ chosen ∈ log.sent, chosen ∈ instances)
      (distance : retryConfig.maxAttempts - retryCount = left) :
      ∀ chosen ∈ sentAfter retryConfig instances draws outcomes what serviceName path call client
        retryCount log, chosen ∈ instances := by
    induction left using Nat.strongRecOn generalizing retryCount log with
    | ind left ih =>
        obtain ⟨chosen, member, picked⟩ := pickInstance_mem filled (draws log.drawn)
        have added : ∀ other ∈ log.sent ++ [chosen], other ∈ instances := by
          intro other listed
          rcases List.mem_append.mp listed with before | last
          · exact known other before
          · rw [List.mem_singleton.mp last]
            exact member
        rw [sentAfter_eq what serviceName path call client retryCount log picked filled]
        split
        · rename_i again
          exact ih _ (by omega) (retryCount + 1) ⟨log.sent ++ [chosen], log.drawn + 1⟩ added rfl
        · exact added
  exact goes _ retryCount log known rfl

theorem sentAfter_last (filled : instances ≠ []) (what serviceName path : String)
    (call : String → ServiceCall) (client : DiscoveryClient) {retryCount : Nat}
    (last : retryConfig.maxAttempts ≤ retryCount + 1) :
    (sentAfter retryConfig instances draws outcomes what serviceName path call client retryCount
      {}).length = 1 := by
  obtain ⟨chosen, _, picked⟩ := pickInstance_mem filled (draws 0)
  rw [sentAfter_eq what serviceName path call client retryCount {} picked filled,
    if_neg fun both => absurd both.2 (Nat.not_lt.mpr last)]
  rfl

theorem sentAfter_repeats {error : JsError} {chosen : ServiceInstance} (filled : instances ≠ [])
    (what serviceName path : String) (call : String → ServiceCall) (client : DiscoveryClient)
    {retryCount : Nat} (picked : ∀ count, pickInstance instances (draws count) = some chosen)
    (fails : ∀ count, outcomes count = .error error)
    (more : retryCount + 1 < retryConfig.maxAttempts) :
    [chosen, chosen] <+: sentAfter retryConfig instances draws outcomes what serviceName path call
      client retryCount {} := by
  have failed : ∀ count, (attemptResult retryConfig (outcomes count)).toBool = false := by
    intro count
    rw [fails]
    rfl
  rw [sentAfter_eq what serviceName path call client retryCount {} (picked 0) filled,
    if_pos ⟨failed 0, more⟩]
  change _ <+: sentAfter retryConfig instances draws outcomes what serviceName path call client
    (retryCount + 1) ⟨[chosen], 1⟩
  rw [sentAfter_eq what serviceName path call client (retryCount + 1) ⟨[chosen], 1⟩ (picked 1)
    filled]
  split
  · exact sentAfter_grows filled what serviceName path call client (retryCount + 2)
      ⟨[chosen, chosen], 2⟩
  · exact List.prefix_refl _

end Attempts

end DiscoveryHttpClient

/-! ### All requests -/

open DiscoveryHttpClient

theorem task_eq (request : ServiceRequest) :
    ∃ what path call, ∀ retryConfig serviceName,
      request.task retryConfig serviceName =
        callService retryConfig what serviceName path call request.retryCount := by
  cases request with
  | get path headers queryParams =>
      exact ⟨_, _, _, fun _ _ => requestWithDiscovery_eq _ _ _ 0 []⟩
  | post path headers json data =>
      exact ⟨_, _, _, fun _ _ => requestWithDiscovery_eq _ _ _ 0 []⟩
  | put path headers json data =>
      exact ⟨_, _, _, fun _ _ => requestWithDiscovery_eq _ _ _ 0 []⟩
  | patch path headers json data =>
      exact ⟨_, _, _, fun _ _ => requestWithDiscovery_eq _ _ _ 0 []⟩
  | delete path headers queryParams =>
      exact ⟨_, _, _, fun _ _ => requestWithDiscovery_eq _ _ _ 0 []⟩
  | download path destination headers queryParams retryCount =>
      exact ⟨_, _, _, fun _ _ => rfl⟩
  | upload path filePath fileField headers formFields retryCount =>
      exact ⟨_, _, _, fun _ _ => rfl⟩
  | uploadMultiple path filePaths fileField headers formFields retryCount =>
      exact ⟨_, _, _, fun _ _ => rfl⟩
  | uploadWithStream path fileName content fileField contentType headers formFields retryCount =>
      exact ⟨_, _, _, fun _ _ => rfl⟩

theorem sentTo_eq (request : ServiceRequest) :
    ∃ what path call, ∀ retryConfig serviceName client instances draws outcomes,
      request.sentTo retryConfig serviceName client instances draws outcomes =
        sentAfter retryConfig instances draws outcomes what serviceName path call client
          request.retryCount {} := by
  obtain ⟨what, path, call, spelled⟩ := task_eq request
  refine ⟨what, path, call, ?_⟩
  intro retryConfig serviceName client instances draws outcomes
  unfold ServiceRequest.sentTo sentAfter
  rw [spelled]

/--
A request switches nodes whatever is drawn and whatever fails exactly when it has one attempt left,
or one instance to go to.
-/
theorem switchesNodes_iff (request : ServiceRequest) (retryConfig : RetryConfig)
    (serviceName : String) (client : DiscoveryClient) (instances : List ServiceInstance) :
    (∀ draws outcomes, SwitchesNodes instances
        (request.sentTo retryConfig serviceName client instances draws outcomes)) ↔
      retryConfig.maxAttempts ≤ request.retryCount + 1 ∨
        ∀ left ∈ instances, ∀ right ∈ instances, left.id = right.id := by
  obtain ⟨what, path, call, spelled⟩ := sentTo_eq request
  simp only [spelled]
  constructor
  · intro switches
    by_contra neither
    rw [not_or, Nat.not_le] at neither
    obtain ⟨more, apart⟩ := neither
    push Not at apart
    obtain ⟨left, leftListed, right, rightListed, different⟩ := apart
    obtain ⟨draw, picked⟩ := pickInstance_surjective leftListed
    have filled : instances ≠ [] := List.ne_nil_of_mem leftListed
    obtain ⟨later, twice⟩ := @sentAfter_repeats instances (fun _ => draw)
      (fun _ => .error ⟨"TypeError", "fetch failed"⟩) retryConfig ⟨"TypeError", "fetch failed"⟩
      left filled what serviceName path call client request.retryCount (fun _ => picked)
      (fun _ => rfl) more
    have failed := switches _ _ [left] left later twice.symm (by simp) right rightListed
    rw [List.map_singleton, List.mem_singleton] at failed
    exact different failed.symm
  · intro condition draws outcomes failed retried later same within other listed
    have filled : instances ≠ [] := List.ne_nil_of_mem listed
    rcases condition with last | alike
    · have one := @sentAfter_last instances draws outcomes retryConfig filled what serviceName path
        call client request.retryCount last
      rw [same, List.length_append, List.length_cons] at one
      have none_failed : failed = [] := List.length_eq_zero_iff.mp (by omega)
      rw [none_failed] at within
      cases within
    · have known := @sentAfter_listed instances draws outcomes retryConfig filled what serviceName
        path call client request.retryCount {} (List.forall_mem_nil _)
      have member : retried ∈ instances := known retried (by rw [same]; simp)
      rw [alike other listed retried member]
      exact within

/-- With two instances to go to, the one that failed is drawn again. -/
theorem failed_drawn_again :
    ¬ SwitchesNodes [⟨"a", "10.0.0.1", 80⟩, ⟨"b", "10.0.0.2", 80⟩]
      ((ServiceRequest.get "/health" [] []).sentTo {} "users" {}
        [⟨"a", "10.0.0.1", 80⟩, ⟨"b", "10.0.0.2", 80⟩] (fun _ => ⟨0, le_refl 0, zero_lt_one⟩)
        fun _ => .error ⟨"HttpRequestError", "Request failed after 1 attempts"⟩) := by
  intro switches
  obtain ⟨what, path, call, spelled⟩ := sentTo_eq (.get "/health" [] [])
  rw [spelled] at switches
  have picked : ∀ _ : Nat, pickInstance [⟨"a", "10.0.0.1", 80⟩, ⟨"b", "10.0.0.2", 80⟩]
      ⟨0, le_refl 0, zero_lt_one⟩ = some ⟨"a", "10.0.0.1", 80⟩ := by
    intro _
    simp [pickInstance]
  obtain ⟨later, twice⟩ := @sentAfter_repeats _ (fun _ => ⟨0, le_refl 0, zero_lt_one⟩)
    (fun _ => .error ⟨"HttpRequestError", "Request failed after 1 attempts"⟩) {}
    ⟨"HttpRequestError", "Request failed after 1 attempts"⟩ _ (List.cons_ne_nil _ _) what "users"
    path call {} 0 picked (fun _ => rfl) (by decide)
  have failed := switches [⟨"a", "10.0.0.1", 80⟩] ⟨"a", "10.0.0.1", 80⟩ later twice.symm (by simp)
    ⟨"b", "10.0.0.2", 80⟩ (by simp)
  exact absurd failed (by decide)

end ByFramework
