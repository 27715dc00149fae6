import ByFramework.GateHistory

/-!
One execution that asks the user again and again. All its rounds share one entry and one marker;
what the gate makes of each answer is read off the order of questions and deliveries.
-/

namespace ByFramework

open Async

section

variable (sessionId messageId : String)

def roundMember : String := encodeMember ⟨sessionId, messageId, "", ""⟩

def roundsAsked : List GateEvent → Nat
  | [] => 0
  | .call (.register _) _ :: earlier => roundsAsked earlier + 1
  | _ :: earlier => roundsAsked earlier

def deliveredSince : List GateEvent → List Nat
  | [] => []
  | .call (.register _) _ :: _ => []
  | .call (.reply sentIn _) _ :: earlier => sentIn :: deliveredSince earlier
  | _ :: earlier => deliveredSince earlier

def answeredAt : List GateEvent → Option Int
  | [] => none
  | .call (.register _) _ :: _ => none
  | .call (.reply _ _) _ :: earlier =>
      match answeredAt earlier with
      | some time => some time
      | none => if roundsAsked earlier = 0 then none else some (clockAfter earlier)
  | _ :: earlier => answeredAt earlier

def markerMs : Int := 1000 * waitConsumedTtlSeconds

/-- The last question was answered so long ago that its marker is gone. -/
def Lapsed (history : List GateEvent) : Prop :=
  ∃ time ∈ answeredAt history, time + markerMs ≤ clockAfter history

/-- Questions that reach the index, and answers, sent in a round that was asked, whose gate calls
meet no refused command and no other wait of their own spelling. -/
def OfRounds (history : List GateEvent) : GateEvent → Prop
  | .call (.register params) refuses =>
      params.sessionId = sessionId ∧ params.member = roundMember sessionId messageId ∧
      refuses (.zadd (waitIndexKey sessionId) params.member
        (clockAfter history + max 0 params.timeoutMs)) = false
  | .call (.reply sentIn header) refuses =>
      header.sessionId = sessionId ∧ header.messageId = messageId ∧ header.taskGroupId = "" ∧
      refuses = calm ∧ sentIn ≤ roundsAsked history ∧
      (memberFromResume header = roundMember sessionId messageId ∨
        memberDigest (memberFromResume header) ≠ memberDigest (roundMember sessionId messageId))
  | .call _ _ => False
  | .pass _ => True

/-- What the claim says of a delivered answer: it is let through exactly when it is the first one,
of those sent in the round that was asked last, to be delivered. -/
def AnswersOwnRound (history : List GateEvent) (store : RedisStore) : GateEvent → Prop
  | .call (.reply sentIn header) refuses => 0 < roundsAsked history →
      ∃ decision, gateDecision refuses store header = .ok decision ∧
        (decision.allow = true ↔
          sentIn = roundsAsked history ∧ roundsAsked history ∉ deliveredSince history)
  | _ => True

/-- The first answer to be delivered after a question was sent after it. -/
def OpensTimely (history : List GateEvent) : GateEvent → Prop
  | .call (.reply sentIn _) _ => 0 < roundsAsked history → deliveredSince history = [] →
      sentIn = roundsAsked history
  | _ => True

/-- And no answer is delivered once the marker of that first one is gone. -/
def Timely (history : List GateEvent) : GateEvent → Prop
  | .call (.reply sentIn header) refuses =>
      OpensTimely history (.call (.reply sentIn header) refuses) ∧
        (0 < roundsAsked history → ¬ Lapsed history)
  | _ => True

/-! ### The invariant -/

/-- The entry is there while the last question is open; its marker is there once it is answered. -/
structure RoundsKept (history : List GateEvent) (store : RedisStore) : Prop where
  clock : store.clock = clockAfter history
  endless : ∀ shard, store.expiresAt (.waitIndex shard) = none
  alone : ∀ member, indexed sessionId store member → member = roundMember sessionId messageId
  marks : ∀ member, marked sessionId store member →
    memberDigest member = memberDigest (roundMember sessionId messageId)
  unasked : roundsAsked history = 0 →
    ¬ indexed sessionId store (roundMember sessionId messageId) ∧
    ¬ marked sessionId store (roundMember sessionId messageId)
  asked : 0 < roundsAsked history → answeredAt history = none →
    indexed sessionId store (roundMember sessionId messageId)
  answered : ∀ time, answeredAt history = some time →
    ¬ indexed sessionId store (roundMember sessionId messageId) ∧
    (time + markerMs ≤ store.clock ∧
        ¬ marked sessionId store (roundMember sessionId messageId) ∨
      store.clock < time + markerMs ∧ ∃ value, store.text (consumedMarkerKey sessionId (roundMember sessionId messageId)) =
          some value ∧
        store.expiresAt (consumedMarkerKey sessionId (roundMember sessionId messageId)) =
          some (time + markerMs))

def RoundOutcome (history : List GateEvent) (event : GateEvent)
    (outcome : Except JsError WaitGateDecision) (after : RedisStore) : Prop :=
  RoundsKept sessionId messageId (event :: history) after ∧
  ∃ decision, outcome = .ok decision ∧ (0 < roundsAsked history →
    (decision.allow = true ↔ answeredAt history = none ∨ Lapsed history))

end

namespace RoundsKept

variable {sessionId messageId : String} {history : List GateEvent} {store : RedisStore}

theorem marked_recent (kept : RoundsKept sessionId messageId history store) {time : Int}
    (first : answeredAt history = some time)
    (stands : marked sessionId store (roundMember sessionId messageId)) :
    clockAfter history < time + markerMs := by
  rw [← kept.clock]
  rcases (kept.answered time first).2 with ⟨-, unmarked⟩ | ⟨recent, -⟩
  · exact absurd stands unmarked
  · exact recent

theorem zrem (kept : RoundsKept sessionId messageId history store) {member : String}
    (other : member ≠ roundMember sessionId messageId) :
    RoundsKept sessionId messageId history
      (store.exec (.zrem (waitIndexKey sessionId) member)).2 := by
  obtain ⟨clock, endless, alone, marks, unasked, asked, answered⟩ := kept
  constructor
  · exact clock
  · exact endless
  · exact fun found listed => alone found ((indexed_zrem _ _).mp listed).2
  · exact fun found listed => marks found ((marked_zrem _ _).mp listed)
  · intro none
    obtain ⟨unindexed, unmarked⟩ := unasked none
    exact ⟨fun listed => unindexed ((indexed_zrem _ _).mp listed).2,
      fun listed => unmarked ((marked_zrem _ _).mp listed)⟩
  · exact fun some open_ => (indexed_zrem _ _).mpr ⟨other.symm, asked some open_⟩
  · intro time first
    obtain ⟨unindexed, marker⟩ := answered time first
    refine ⟨fun listed => unindexed ((indexed_zrem _ _).mp listed).2, ?_⟩
    exact marker.imp_left (And.imp_right fun unmarked found => unmarked ((marked_zrem _ _).mp found))

theorem advance (kept : RoundsKept sessionId messageId history store) {now : Int}
    (later : store.clock ≤ now) :
    RoundsKept sessionId messageId (.pass now :: history) (store.advance now) := by
  obtain ⟨clock, endless, alone, marks, unasked, asked, answered⟩ := kept
  have listed (member : String) :
      indexed sessionId (store.advance now) member ↔ indexed sessionId store member := by
    simp [indexed, Redis.Store.score, Redis.Store.advance, waitIndexKey, endless]
  have stood (member : String) (stands : marked sessionId (store.advance now) member) :
      marked sessionId store member := by
    unfold marked Redis.Store.holds at stands ⊢
    by_cases lapsed : (store.expiresAt (consumedMarkerKey sessionId member)).any
        (decide <| · ≤ now) = true
    · simp [Redis.Store.advance, lapsed] at stands
    · simpa [Redis.Store.advance, lapsed] using stands
  constructor
  · rfl
  · intro shard
    simp [Redis.Store.advance, endless shard]
  · exact fun member found => alone member ((listed member).mp found)
  · exact fun member found => marks member (stood member found)
  · intro none
    obtain ⟨unindexed, unmarked⟩ := unasked none
    exact ⟨fun found => unindexed ((listed _).mp found), fun found => unmarked (stood _ found)⟩
  · exact fun some open_ => (listed _).mpr (asked some open_)
  · intro time first
    obtain ⟨unindexed, marker⟩ := answered time first
    refine ⟨fun found => unindexed ((listed _).mp found), ?_⟩
    rcases marker with ⟨old, unmarked⟩ | ⟨-, value, found, expires⟩
    · exact .inl ⟨le_trans old later, fun found => unmarked (stood _ found)⟩
    · by_cases lapsed : time + markerMs ≤ now
      · refine .inl ⟨lapsed, ?_⟩
        simp [marked, Redis.Store.holds, Redis.Store.advance, expires, lapsed]
      · refine .inr ⟨not_le.mp lapsed, value, ?_, ?_⟩
        · simpa [Redis.Store.advance, expires, lapsed] using found
        · simp [Redis.Store.advance, expires, lapsed]

theorem claim {sentIn : Nat} {header : MessageHeader} {refuses : Outage}
    (kept : RoundsKept sessionId messageId history store) (begun : 0 < roundsAsked history)
    (first : answeredAt history = none) :
    RoundsKept sessionId messageId (.call (.reply sentIn header) refuses :: history)
      ((store.exec (.zrem (waitIndexKey sessionId) (roundMember sessionId messageId))).2.exec
        (.set (consumedMarkerKey sessionId (roundMember sessionId messageId)) (.text "1") false
          (some waitConsumedTtlSeconds))).2 := by
  have answers : answeredAt (.call (.reply sentIn header) refuses :: history) =
      some (clockAfter history) := by
    simp only [answeredAt, first]
    exact if_neg (by omega)
  obtain ⟨clock, endless, alone, marks, -, -, -⟩ := kept
  constructor
  · exact clock
  · intro shard
    have apart : Key.waitIndex shard ≠
        consumedMarkerKey sessionId (roundMember sessionId messageId) := by
      simp [consumedMarkerKey]
    simpa [Redis.Store.exec, Redis.Store.drop, apart] using endless shard
  · intro member listed
    exact alone member ((indexed_zrem _ _).mp ((indexed_set_marker _ _ _ _).mp listed)).2
  · intro member found
    simp only [marked, Redis.Store.holds_set, Bool.or_eq_true, decide_eq_true_eq] at found
    rcases found with same | found
    · simpa [consumedMarkerKey] using same
    · exact marks member ((marked_zrem _ _).mp found)
  · intro none
    have count : roundsAsked history = 0 := none
    omega
  · intro _ open_
    rw [answers] at open_
    cases open_
  · intro time found
    rw [answers] at found
    cases found
    constructor
    · intro listed
      exact ((indexed_zrem _ _).mp ((indexed_set_marker _ _ _ _).mp listed)).1 rfl
    · rw [← clock]
      refine .inr ⟨?_, .text "1", Function.update_self _ _ _, Function.update_self _ _ _⟩
      have lasts : 0 < markerMs := by decide
      change store.clock < store.clock + markerMs
      omega

theorem look {sentIn : Nat} {header : MessageHeader} {refuses : Outage}
    (kept : RoundsKept sessionId messageId history store)
    (isOver : roundsAsked history = 0 ∨ ∃ time, answeredAt history = some time) :
    RoundsKept sessionId messageId (.call (.reply sentIn header) refuses :: history)
      (store.exec (.zrem (waitIndexKey sessionId) (roundMember sessionId messageId))).2 := by
  have answers : answeredAt (.call (.reply sentIn header) refuses :: history) =
      answeredAt history := by
    rcases isOver with none | ⟨time, first⟩
    · cases first : answeredAt history with
      | none => simp [answeredAt, first, none]
      | some time => simp [answeredAt, first]
    · simp [answeredAt, first]
  obtain ⟨clock, endless, alone, marks, unasked, asked, answered⟩ := kept
  have gone : ¬ indexed sessionId (store.exec (.zrem (waitIndexKey sessionId)
      (roundMember sessionId messageId))).2 (roundMember sessionId messageId) :=
    fun listed => ((indexed_zrem _ _).mp listed).1 rfl
  constructor
  · exact clock
  · exact endless
  · exact fun member listed => alone member ((indexed_zrem _ _).mp listed).2
  · exact fun member found => marks member ((marked_zrem _ _).mp found)
  · exact fun none => ⟨gone, fun found => (unasked none).2 ((marked_zrem _ _).mp found)⟩
  · intro begun open_
    have count : 0 < roundsAsked history := begun
    rw [answers] at open_
    rcases isOver with none | ⟨time, first⟩
    · omega
    · rw [first] at open_
      cases open_
  · intro time found
    rw [answers] at found
    refine ⟨gone, (answered time found).2.imp_left (And.imp_right fun unmarked marker => ?_)⟩
    exact unmarked ((marked_zrem _ _).mp marker)

theorem zadd {params : RegisterWaitParams} {refuses : Outage}
    (kept : RoundsKept sessionId messageId history store) (rank : Int) :
    RoundsKept sessionId messageId (.call (.register params) refuses :: history)
      (store.exec (.zadd (waitIndexKey sessionId) (roundMember sessionId messageId) rank)).2 := by
  obtain ⟨clock, endless, alone, marks, -, -, -⟩ := kept
  have unmarked (member : String) : marked sessionId (store.exec (.zadd (waitIndexKey sessionId)
      (roundMember sessionId messageId) rank)).2 member ↔ marked sessionId store member := by
    unfold marked
    rw [Redis.Store.holds_zadd _ _ _ _ _ (by simp [consumedMarkerKey, waitIndexKey])]
  constructor
  · exact clock
  · exact endless
  · intro member listed
    simp only [indexed, Redis.Store.score_zadd, true_and] at listed
    split at listed
    · assumption
    · exact alone member listed
  · exact fun member found => marks member ((unmarked member).mp found)
  · intro none
    cases none
  · intro _ _
    simp [indexed, Redis.Store.score_zadd]
  · intro time found
    cases found

theorem void (kept : RoundsKept sessionId messageId history store)
    (open_ : answeredAt history = none) :
    RoundsKept sessionId messageId history
      (store.exec (.del (consumedMarkerKey sessionId (roundMember sessionId messageId)))).2 := by
  obtain ⟨clock, endless, alone, marks, unasked, asked, -⟩ := kept
  have listed (member : String) : indexed sessionId (store.exec (.del (consumedMarkerKey sessionId
      (roundMember sessionId messageId)))).2 member ↔ indexed sessionId store member := by
    unfold indexed
    rw [Redis.Store.score_del _ _ _ _ (by simp [consumedMarkerKey, waitIndexKey])]
  have stood (member : String) (stands : marked sessionId (store.exec (.del (consumedMarkerKey
      sessionId (roundMember sessionId messageId)))).2 member) :
      marked sessionId store member := by
    simp only [marked, Redis.Store.holds_del, Bool.and_eq_true] at stands
    exact stands.2
  constructor
  · exact clock
  · intro shard
    have apart : Key.waitIndex shard ≠
        consumedMarkerKey sessionId (roundMember sessionId messageId) := by
      simp [consumedMarkerKey]
    simpa [Redis.Store.exec, Redis.Store.drop, apart] using endless shard
  · exact fun member found => alone member ((listed member).mp found)
  · exact fun member found => marks member (stood member found)
  · intro none
    obtain ⟨unindexed, unmarked⟩ := unasked none
    exact ⟨fun found => unindexed ((listed _).mp found), fun found => unmarked (stood _ found)⟩
  · exact fun begun still => (listed _).mpr (asked begun still)
  · intro time found
    rw [open_] at found
    cases found

theorem ask {params : RegisterWaitParams} {refuses : Outage}
    (kept : RoundsKept sessionId messageId history store)
    (possible : OfRounds sessionId messageId history (.call (.register params) refuses)) :
    RoundsKept sessionId messageId (.call (.register params) refuses :: history)
      ((GateEvent.call (.register params) refuses).perform store) := by
  obtain ⟨session, own, accepted⟩ := possible
  suffices held : (GateCall.program (.register params)).wp (underOutage refuses)
      (fun _ _ after => RoundsKept sessionId messageId
        (.call (.register params) refuses :: history) after) () store from perform_of_wp held
  have listed : RoundsKept sessionId messageId (.call (.register params) refuses :: history)
      (store.exec (.zadd (waitIndexKey sessionId) (roundMember sessionId messageId)
        (store.clock + max 0 params.timeoutMs))).2 := kept.zadd _
  refine Task.wp_failSoft (Task.wp_alone_bind (wp_dateNow_outage ?_)) trivial
  rw [session, own]
  refine Task.wp_alone_bind (wp_redis_outage (fun refusal error => ?_) fun _ => ?_)
  · rw [kept.clock, ← own, accepted] at refusal
    cases refusal
  · refine Task.wp_failSoft (Task.wp_alone_bind (wp_redis_outage (fun _ error => ?_)
      fun _ => ?_)) trivial
    · rintro _ rfl - _ rfl -
      exact listed
    · refine Task.wp_alone_pure ?_
      rintro _ rfl - _ rfl -
      exact listed.void rfl

theorem decides {sentIn : Nat} {header : MessageHeader} {refuses : Outage}
    (kept : RoundsKept sessionId messageId history store) :
    (tryCandidates sessionId [roundMember sessionId messageId] : Proc Unit _).wp
      (underOutage calm) (fun outcome _ after => RoundOutcome sessionId messageId history
        (.call (.reply sentIn header) refuses) outcome after) () store := by
  by_cases waits : 0 < roundsAsked history ∧ answeredAt history = none
  · obtain ⟨begun, first⟩ := waits
    refine tryCandidates_claims (kept.asked begun first) ⟨kept.claim begun first, _, rfl, ?_⟩
    exact fun _ => iff_of_true rfl (.inl first)
  · have isOver : roundsAsked history = 0 ∨ ∃ time, answeredAt history = some time := by
      rcases Nat.eq_zero_or_pos (roundsAsked history) with none | begun
      · exact .inl none
      · exact .inr (Option.ne_none_iff_exists'.mp fun first => waits ⟨begun, first⟩)
    have unindexed : ¬ indexed sessionId store (roundMember sessionId messageId) := by
      rcases isOver with none | ⟨time, first⟩
      · exact (kept.unasked none).1
      · exact (kept.answered time first).1
    refine tryCandidates_looks unindexed (fun stands => ?_) fun unmarked => ?_
    · refine ⟨kept.look isOver, _, rfl, fun begun => iff_of_false (by simp) ?_⟩
      rintro (first | ⟨time, first, late⟩)
      · exact waits ⟨begun, first⟩
      · -- a marker that still stands has not reached its time
        exact absurd late (not_le.mpr (kept.marked_recent first stands))
    · refine Task.wp_alone_pure ⟨kept.look isOver, _, rfl, fun begun => iff_of_true rfl (.inr ?_)⟩
      rcases isOver with none | ⟨time, first⟩
      · omega
      · rcases (kept.answered time first).2 with ⟨late, -⟩ | ⟨-, value, found, -⟩
        · exact ⟨time, first, kept.clock ▸ late⟩
        · exact absurd (by simp [marked, Redis.Store.holds, found]) unmarked

theorem consume {sentIn : Nat} {header : MessageHeader} {refuses : Outage}
    (kept : RoundsKept sessionId messageId history store)
    (possible : OfRounds sessionId messageId history (.call (.reply sentIn header) refuses)) :
    (consumeWaitEntry header : Proc Unit _).wp (underOutage refuses) (fun outcome _ after =>
      RoundOutcome sessionId messageId history (.call (.reply sentIn header) refuses) outcome
        after) () store := by
  obtain ⟨session, caller, ungrouped, quiet, -, named⟩ := possible
  subst quiet session caller
  suffices passes : (tryCandidates header.sessionId (candidateMembers header) : Proc Unit _).wp
      (underOutage calm) (fun outcome _ after => RoundOutcome header.sessionId header.messageId
        history (.call (.reply sentIn header) calm) outcome after) () store by
    refine Task.wp_alone_tryCatch (Task.wp_mono passes ?_)
    rintro outcome memory after - ⟨still, decision, rfl, answer⟩
    exact ⟨still, decision, rfl, answer⟩
  have user : askUserMember header = roundMember header.sessionId header.messageId := rfl
  by_cases same : memberFromResume header = roundMember header.sessionId header.messageId
  · have candidates : candidateMembers header =
        [roundMember header.sessionId header.messageId] := by
      simp [candidateMembers, user, same]
    rw [candidates]
    exact kept.decides
  · have candidates : candidateMembers header =
        [memberFromResume header, roundMember header.sessionId header.messageId] := by
      simp [candidateMembers, user, ungrouped, Ne.symm same]
    rw [candidates]
    have apart := named.resolve_left same
    refine tryCandidates_looks (fun listed => same (kept.alone _ listed))
      (fun found => absurd (kept.marks _ found) apart) fun _ => ?_
    exact (kept.zrem same).decides

theorem perform {event : GateEvent} (kept : RoundsKept sessionId messageId history store)
    (ofRounds : OfRounds sessionId messageId history event) (possible : event.Possible store) :
    RoundsKept sessionId messageId (event :: history) (event.perform store) := by
  cases event with
  | pass now => exact kept.advance possible
  | call call refuses =>
      cases call with
      | register params => exact kept.ask ofRounds
      | reply sentIn header =>
          suffices held : (GateCall.program (.reply sentIn header)).wp (underOutage refuses)
              (fun _ _ after => RoundsKept sessionId messageId
                (.call (.reply sentIn header) refuses :: history) after) () store from
            perform_of_wp held
          refine Task.wp_alone_bind (Task.wp_mono (kept.consume ofRounds) ?_)
          rintro outcome memory after - ⟨still, decision, rfl, -⟩
          exact Task.wp_alone_pure still
      | renew due => cases ofRounds
      | dismiss due outcome => cases ofRounds
      | prune shard => cases ofRounds

end RoundsKept

def storeAfter : List GateEvent → RedisStore
  | [] => .empty
  | event :: earlier => event.perform (storeAfter earlier)

theorem GateRun.store_eq {permits : List GateEvent → GateEvent → Prop} {history : List GateEvent}
    {store : RedisStore} (run : GateRun permits history store) : store = storeAfter history := by
  induction run with
  | start => rfl
  | step _ _ _ ih =>
      rw [ih]
      rfl

theorem GateRun.earlier {permits : List GateEvent → GateEvent → Prop} {store : RedisStore}
    {event : GateEvent} {earlier : List GateEvent} :
    ∀ later, GateRun permits (later ++ event :: earlier) store →
      GateRun permits earlier (storeAfter earlier) ∧ permits earlier event := by
  intro later run
  induction later generalizing store with
  | nil =>
      cases run with
      | step run permitted possible =>
          rw [← run.store_eq]
          exact ⟨run, permitted⟩
  | cons last later ih =>
      cases run with
      | step run permitted possible => exact ih run

section Rounds

variable {sessionId messageId : String} {history : List GateEvent} {store : RedisStore}

theorem GateRun.rounds (run : GateRun (OfRounds sessionId messageId) history store) :
    RoundsKept sessionId messageId history store := by
  induction run with
  | start =>
      constructor
      · rfl
      · exact fun _ => rfl
      · exact fun member listed => by simp [indexed, Redis.Store.score, Redis.Store.empty] at listed
      · exact fun member found => by simp [marked, Redis.Store.holds, Redis.Store.empty] at found
      · intro _
        constructor
        · simp [indexed, Redis.Store.score, Redis.Store.empty]
        · simp [marked, Redis.Store.holds, Redis.Store.empty]
      · intro begun
        cases begun
      · intro time first
        cases first
  | step _ permitted possible ih => exact ih.perform permitted possible

theorem answeredAt_none (begun : 0 < roundsAsked history) :
    answeredAt history = none ↔ deliveredSince history = [] := by
  induction history with
  | nil => cases begun
  | cons event earlier ih =>
      cases event with
      | pass now => exact ih begun
      | call call refuses =>
          cases call with
          | register params => exact iff_of_true rfl rfl
          | reply sentIn header =>
              refine iff_of_false ?_ (List.cons_ne_nil _ _)
              have counted : 0 < roundsAsked earlier := begun
              simp only [answeredAt]
              cases answeredAt earlier with
              | some time => simp
              | none => simp [Nat.ne_of_gt counted]
          | renew due => exact ih begun
          | dismiss due outcome => exact ih begun
          | prune shard => exact ih begun

theorem decision_of_rounds {sentIn : Nat} {header : MessageHeader} {refuses : Outage}
    (kept : RoundsKept sessionId messageId history store)
    (possible : OfRounds sessionId messageId history (.call (.reply sentIn header) refuses))
    (begun : 0 < roundsAsked history) :
    ∃ decision, gateDecision refuses store header = .ok decision ∧
      (decision.allow = true ↔ deliveredSince history = [] ∨ Lapsed history) := by
  have decided := gateDecision_of_wp (Task.wp_mono (kept.consume possible)
    fun outcome _ _ _ told => told.2)
  obtain ⟨decision, same, answer⟩ := decided
  exact ⟨decision, same, (answer begun).trans (or_congr_left (answeredAt_none begun))⟩

theorem answered_of_opened (begun : 0 < roundsAsked history)
    (timely : ∀ later event earlier, history = later ++ event :: earlier → OpensTimely earlier event)
    (delivered : deliveredSince history ≠ []) : roundsAsked history ∈ deliveredSince history := by
  induction history with
  | nil => cases begun
  | cons event earlier ih =>
      have before : ∀ later other past, earlier = later ++ other :: past → OpensTimely past other := by
        rintro later other past rfl
        exact timely (event :: later) other past rfl
      cases event with
      | pass now => exact ih begun before delivered
      | call call refuses =>
          cases call with
          | register params => exact absurd rfl delivered
          | reply sentIn header =>
              have now : OpensTimely earlier (.call (.reply sentIn header) refuses) :=
                timely [] _ _ rfl
              simp only [roundsAsked, deliveredSince] at begun ⊢
              by_cases first : deliveredSince earlier = []
              · rw [now begun first]
                exact List.mem_cons_self
              · exact List.mem_cons_of_mem _ (ih begun before first)
          | renew due => exact ih begun before delivered
          | dismiss due outcome => exact ih begun before delivered
          | prune shard => exact ih begun before delivered

theorem Timely.opens {event : GateEvent} (timely : Timely history event) :
    OpensTimely history event := by
  cases event with
  | pass now => trivial
  | call call refuses =>
      cases call with
      | reply sentIn header => exact timely.1
      | _ => trivial

theorem delivered_of_lapsed (begun : 0 < roundsAsked history) (lapsed : Lapsed history) :
    deliveredSince history ≠ [] := by
  obtain ⟨time, first, -⟩ := lapsed
  intro nothing
  rw [(answeredAt_none begun).mpr nothing] at first
  cases first

theorem before {holds : List GateEvent → GateEvent → Prop} {later earlier : List GateEvent}
    {event : GateEvent} (split : history = later ++ event :: earlier)
    (whole : ∀ later event earlier, history = later ++ event :: earlier → holds earlier event) :
    ∀ middle other past, earlier = middle ++ other :: past → holds past other := by
  rintro middle other past rfl
  exact whole (later ++ event :: middle) other past (by simp [split])

end Rounds

theorem answers_resolve_own_rounds (sessionId messageId : String) (history : List GateEvent)
    (store : RedisStore) (run : GateRun (OfRounds sessionId messageId) history store) :
    (∀ later event earlier, history = later ++ event :: earlier →
      AnswersOwnRound earlier (storeAfter earlier) event) ↔
    (∀ later event earlier, history = later ++ event :: earlier → Timely earlier event) := by
  have told : ∀ later sentIn header refuses earlier,
      history = later ++ .call (.reply sentIn header) refuses :: earlier →
      0 < roundsAsked earlier → ∃ decision,
        gateDecision refuses (storeAfter earlier) header = .ok decision ∧
        (decision.allow = true ↔ deliveredSince earlier = [] ∨ Lapsed earlier) := by
    rintro later sentIn header refuses earlier rfl begun
    obtain ⟨before, permitted⟩ := GateRun.earlier later run
    exact decision_of_rounds before.rounds permitted begun
  constructor
  · intro owned
    have opened : ∀ later event earlier, history = later ++ event :: earlier →
        OpensTimely earlier event := by
      intro later event earlier split
      cases event with
      | pass now => trivial
      | call call refuses =>
          cases call with
          | reply sentIn header =>
              intro begun first
              obtain ⟨decision, decided, answer⟩ := told _ _ _ _ _ split begun
              obtain ⟨other, same, own⟩ := owned _ _ _ split begun
              rw [decided] at same
              cases same
              exact (own.mp (answer.mpr (.inl first))).1
          | _ => trivial
    intro later event earlier split
    cases event with
    | pass now => trivial
    | call call refuses =>
        cases call with
        | reply sentIn header =>
            refine ⟨opened _ _ _ split, fun begun lapsed => ?_⟩
            obtain ⟨decision, decided, answer⟩ := told _ _ _ _ _ split begun
            obtain ⟨other, same, own⟩ := owned _ _ _ split begun
            rw [decided] at same
            cases same
            -- the copy is let through, though the round was answered before
            exact (own.mp (answer.mpr (.inr lapsed))).2
              (answered_of_opened begun (before split opened) (delivered_of_lapsed begun lapsed))
        | _ => trivial
  · intro timely later event earlier split
    cases event with
    | pass now => trivial
    | call call refuses =>
        cases call with
        | reply sentIn header =>
            intro begun
            obtain ⟨decision, decided, answer⟩ := told _ _ _ _ _ split begun
            have own := timely _ _ _ split
            refine ⟨decision, decided, answer.trans ?_⟩
            constructor
            · rintro (first | lapsed)
              · refine ⟨own.1 begun first, ?_⟩
                rw [first]
                exact List.not_mem_nil
              · exact absurd lapsed (own.2 begun)
            · rintro ⟨-, unanswered⟩
              by_contra delivered
              exact unanswered (answered_of_opened begun (before split fun _ _ _ found =>
                (timely _ _ _ found).opens) fun first => delivered (.inl first))
        | _ => trivial

/-! ### A late copy -/

def question : GateEvent := .call (.register userWait) calm

def delivery (sentIn : Nat) : GateEvent := .call (.reply sentIn userAnswer) calm

theorem question_possible (history : List GateEvent) :
    OfRounds "session" "caller" history question := ⟨rfl, rfl, rfl⟩

theorem delivery_possible {history : List GateEvent} (sentIn : Nat)
    (sent : sentIn ≤ roundsAsked history) :
    OfRounds "session" "caller" history (delivery sentIn) :=
  ⟨rfl, rfl, rfl, rfl, sent, .inl rfl⟩

/-- The user answers twice to the first question, and once to the second. -/
theorem answers_resolve_own_rounds_twice :
    (∀ later event earlier, [delivery 2, question, delivery 1, delivery 1, question] =
      later ++ event :: earlier → AnswersOwnRound earlier (storeAfter earlier) event) ↔
    (∀ later event earlier, [delivery 2, question, delivery 1, delivery 1, question] =
      later ++ event :: earlier → Timely earlier event) := by
  have first := (GateRun.start.step (question_possible _) trivial).step
    (delivery_possible 1 le_rfl) trivial
  have second := (first.step (delivery_possible 1 le_rfl) trivial).step
    (question_possible _) trivial
  exact answers_resolve_own_rounds "session" "caller" _ _
    (second.step (delivery_possible 2 le_rfl) trivial)

/-- A copy of the first answer comes after the second question: it is taken for its answer, and
the answer to the second question is refused. Another comes once the marker is gone: it passes. -/
theorem late_copy_answers :
    (∃ store, GateRun (OfRounds "session" "caller")
      [delivery 2, delivery 1, question, delivery 1, question] store) ∧
    ¬ AnswersOwnRound [question, delivery 1, question]
      (storeAfter [question, delivery 1, question]) (delivery 1) ∧
    gateDecision calm (storeAfter [delivery 1, question, delivery 1, question]) userAnswer =
      .ok ⟨false, denyAlreadyConsumed, askUserMember userAnswer⟩ ∧
    (∃ store, GateRun (OfRounds "session" "caller")
      [delivery 1, .pass markerMs, delivery 1, question] store) ∧
    ¬ AnswersOwnRound [.pass markerMs, delivery 1, question]
      (storeAfter [.pass markerMs, delivery 1, question]) (delivery 1) := by
  refine ⟨?_, ?_, by decide +kernel, ?_, ?_⟩
  · have first := (GateRun.start.step (question_possible _) trivial).step
      (delivery_possible 1 le_rfl) trivial
    have late := (first.step (question_possible _) trivial).step
      (delivery_possible 1 (by decide)) trivial
    exact ⟨_, late.step (delivery_possible 2 le_rfl) trivial⟩
  · intro own
    obtain ⟨decision, decided, answer⟩ := own (by decide)
    have passed : gateDecision calm (storeAfter [question, delivery 1, question]) userAnswer =
        .ok ⟨true, allowClaimed, askUserMember userAnswer⟩ := by decide +kernel
    rw [passed] at decided
    cases decided
    exact absurd (answer.mp rfl).1 (by decide)
  · have first := (GateRun.start.step (question_possible _) trivial).step
      (delivery_possible 1 le_rfl) trivial
    have later : GateRun (OfRounds "session" "caller") [.pass markerMs, delivery 1, question] _ :=
      first.step trivial (first.rounds.clock.trans_le (show (0 : Int) ≤ markerMs by decide))
    exact ⟨_, later.step (delivery_possible 1 le_rfl) trivial⟩
  · intro own
    obtain ⟨decision, decided, answer⟩ := own (by decide)
    have passed : gateDecision calm (storeAfter [.pass markerMs, delivery 1, question])
        userAnswer = .ok ⟨true, allowUnregistered, ""⟩ := by decide +kernel
    rw [passed] at decided
    cases decided
    exact (answer.mp rfl).2 (by decide)

end ByFramework
