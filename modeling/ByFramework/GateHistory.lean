import ByFramework.MemberCodec
import ByFramework.SweepEntry
import ByFramework.WaitGate

/-!
A history of gate calls, each taken as one step, over a Redis that may refuse single commands,
and what it says about the waits that are still open or were answered.
-/

namespace ByFramework

open Async

abbrev Outage := RedisCommand → Bool

def outageAnswer (refuses : Outage) (store : RedisStore) : (op : Op) → op.Reply × RedisStore
  | .redis command =>
      if refuses command then (.error "the command was refused", store) else store.exec command
  | op => redisAnswer store op

/-- What writes wait entries or markers; a reply says in which round of its caller it was sent. -/
inductive GateCall where
  | register (params : RegisterWaitParams)
  | reply (sentIn : Nat) (header : MessageHeader)
  | renew (due : DueEntry)
  | dismiss (due : DueEntry) (outcome : SweepOutcome)
  | prune (shard : Nat)

def GateCall.program : GateCall → Proc Unit PUnit
  | .register params => registerWait params
  | .reply _ header => do
      let _ ← consumeWaitEntry header
  | .renew due => extendDeadline due
  | .dismiss due outcome => do
      let _ ← dropEntry due outcome
  | .prune shard => do
      let _ ← pruneShard shard

inductive GateEvent where
  | call (call : GateCall) (refuses : Outage)
  | pass (now : Int)

def GateEvent.perform (store : RedisStore) : GateEvent → RedisStore
  | .call made refuses => (Prog.run (outageAnswer refuses) (made.program.start ()) store).2
  | .pass now => store.advance now

/-- Time moves on, and a sweep handles entries of the index. -/
def GateEvent.Possible (store : RedisStore) : GateEvent → Prop
  | .call (.renew due) _ | .call (.dismiss due _) _ => ∃ shard, due.indexKey = .waitIndex shard
  | .call _ _ => True
  | .pass now => store.clock ≤ now

/-- The histories from an empty Redis, the last event first, whose events all meet a condition. -/
inductive GateRun (permits : List GateEvent → GateEvent → Prop) :
    List GateEvent → RedisStore → Prop where
  | start : GateRun permits [] .empty
  | step {history : List GateEvent} {store : RedisStore} {event : GateEvent}
      (run : GateRun permits history store) (permitted : permits history event)
      (possible : event.Possible store) : GateRun permits (event :: history) (event.perform store)

def gateDecision (refuses : Outage) (store : RedisStore) (header : MessageHeader) :
    Except JsError WaitGateDecision :=
  (Prog.run (outageAnswer refuses) ((consumeWaitEntry header : Proc Unit _).start ()) store).1.1

abbrev underOutage (refuses : Outage) : Setting effects RedisStore :=
  .alone fun store op reply after => (reply, after) = outageAnswer refuses store op

section

variable {σ : Type} {refuses : Outage} {memory : σ} {store : RedisStore}

theorem wp_redis_outage {command : RedisCommand}
    {post : Except JsError command.Reply → σ → RedisStore → Prop}
    (refused : refuses command = true → ∀ error, post (.error error) memory store)
    (carried : refuses command = false →
      post ((store.exec command).1.mapError redisError) memory (store.exec command).2) :
    (redis command : Proc σ _).wp (underOutage refuses) post memory store := by
  refine wp_redis ?_
  rintro later rfl -
  refine ⟨trivial, ?_⟩
  rintro reply after served - last rfl -
  have answered : (reply, after) = outageAnswer refuses store (.redis command) := served
  cases refusal : refuses command with
  | true =>
      have unchanged : (reply, after) = (.error "the command was refused", store) := by
        rw [answered]
        exact if_pos refusal
      cases unchanged
      exact refused refusal _
  | false =>
      have executed : (reply, after) = store.exec command := by
        rw [answered]
        exact if_neg (by simp [refusal])
      have held := carried refusal
      rw [← executed] at held
      exact held

theorem wp_dateNow_outage {post : Except JsError Int → σ → RedisStore → Prop}
    (holds : post (.ok store.clock) memory store) :
    (dateNow : Proc σ Int).wp (underOutage refuses) post memory store := by
  refine Task.wp_alone_await ?_
  intro now after served
  cases served
  exact holds

theorem perform_of_wp {call : GateCall} {fact : RedisStore → Prop}
    (holds : call.program.wp (underOutage refuses) (fun _ _ after => fact after) () store) :
    fact ((GateEvent.call call refuses).perform store) :=
  Prog.wp_run holds fun _ _ => rfl

theorem gateDecision_of_wp {header : MessageHeader}
    {fact : Except JsError WaitGateDecision → Prop}
    (holds : (consumeWaitEntry header : Proc Unit _).wp (underOutage refuses)
      (fun outcome _ _ => fact outcome) () store) : fact (gateDecision refuses store header) :=
  Prog.wp_run holds fun _ _ => rfl

end

/-- A wait is open, or was answered and is marked until `lapse`, or nothing is known of it. -/
inductive WaitStanding where
  | unknown
  | waiting
  | answered (lapse : Int)
deriving DecidableEq

namespace WaitStanding

def dismissed : WaitStanding → WaitStanding
  | .waiting => .unknown
  | standing => standing

def unmarked : WaitStanding → WaitStanding
  | .answered _ => .unknown
  | standing => standing

def claimed (sessionId member : String) (now : Int) (refuses : Outage) : WaitStanding → WaitStanding
  | .waiting =>
      if refuses (.zrem (waitIndexKey sessionId) member) then .waiting
      else if refuses (.set (consumedMarkerKey sessionId member) (.text "1") false
        (some waitConsumedTtlSeconds)) then .unknown
      else .answered (now + 1000 * waitConsumedTtlSeconds)
  | standing => standing

/-- What a call at `now` makes of the wait. -/
def after (wait : WaitIndexMember) (now : Int) (refuses : Outage) (standing : WaitStanding) :
    GateCall → WaitStanding
  | .register params =>
      if params.member = encodeMember wait then
        if refuses (.zadd (waitIndexKey params.sessionId) params.member
          (now + max 0 params.timeoutMs)) then standing else .waiting
      else if consumedMarkerKey params.sessionId params.member =
          consumedMarkerKey wait.sessionId (encodeMember wait) then standing.unmarked
      else standing
  | .reply _ header =>
      if memberFromResume header = encodeMember wait then
        standing.claimed wait.sessionId (encodeMember wait) now refuses
      else standing
  | .renew _ => standing
  | .dismiss due _ => if due.member = encodeMember wait then standing.dismissed else standing
  | .prune _ => standing.dismissed

def passed (now : Int) : WaitStanding → WaitStanding
  | .answered lapse => if lapse ≤ now then .unknown else .answered lapse
  | standing => standing

end WaitStanding

/-- The time that the last `pass` of a history left. -/
def clockAfter : List GateEvent → Int
  | [] => 0
  | .pass now :: _ => now
  | .call _ _ :: earlier => clockAfter earlier

def standingAfter (wait : WaitIndexMember) : List GateEvent → WaitStanding
  | [] => .unknown
  | .pass now :: earlier => (standingAfter wait earlier).passed now
  | .call call refuses :: earlier =>
      (standingAfter wait earlier).after wait (clockAfter earlier) refuses call

def WaitStanding.Holds (wait : WaitIndexMember) (store : RedisStore) : WaitStanding → Prop
  | .unknown => True
  | .waiting => indexed wait.sessionId store (encodeMember wait)
  | .answered lapse =>
      lapse ≤ store.clock + 1000 * waitConsumedTtlSeconds ∧
      ∃ value deadline,
        store.text (consumedMarkerKey wait.sessionId (encodeMember wait)) = some value ∧
        store.expiresAt (consumedMarkerKey wait.sessionId (encodeMember wait)) = some deadline ∧
        lapse ≤ deadline

structure Guards (wait : WaitIndexMember) (now : Int) (standing : WaitStanding)
    (store : RedisStore) : Prop where
  clock : store.clock = now
  endless : ∀ shard, store.expiresAt (.waitIndex shard) = none
  holds : standing.Holds wait store

def Spares (wait : WaitIndexMember) (standing : WaitStanding) : RedisCommand → Prop
  | .zadd (.waitIndex _) _ _ => True
  | .zrem (.waitIndex _) member => standing = .waiting → member ≠ encodeMember wait
  | .zremrangebyscore (.waitIndex _) _ _ => standing ≠ .waiting
  | .set (.waitConsumed _ _) _ false ttl => ttl = some waitConsumedTtlSeconds
  | .set (.waitRenewOrigin _ _) _ _ _ => True
  | .del (.waitConsumed sessionId digest) => (∃ lapse, standing = .answered lapse) →
      Key.waitConsumed sessionId digest ≠ consumedMarkerKey wait.sessionId (encodeMember wait)
  | .existsKey _ => True
  | _ => False

namespace Guards

variable {wait : WaitIndexMember} {now : Int} {standing : WaitStanding} {store : RedisStore}

theorem unknown (kept : Guards wait now standing store) : Guards wait now .unknown store :=
  ⟨kept.clock, kept.endless, trivial⟩

theorem del {sessionId digest : String} (kept : Guards wait now standing store)
    (spares : Spares wait standing (.del (.waitConsumed sessionId digest))) :
    Guards wait now standing (store.exec (.del (.waitConsumed sessionId digest))).2 := by
  obtain ⟨clock, endless, holds⟩ := kept
  refine ⟨clock, fun shard => ?_, ?_⟩
  · simp [Redis.Store.exec, Redis.Store.drop, endless shard]
  · cases standing with
    | unknown => trivial
    | waiting =>
        simp only [WaitStanding.Holds, indexed] at holds ⊢
        rw [Redis.Store.score_del _ _ _ _ (by simp [waitIndexKey])]
        exact holds
    | answered lapse =>
        have apart := (spares ⟨lapse, rfl⟩).symm
        simp only [WaitStanding.Holds] at holds ⊢
        simpa [Redis.Store.exec, Redis.Store.drop, apart] using holds

/-- Of the strings, only the wait's own marker counts, and it may only be written again. -/
theorem set {key : Key} {value : Value} {ifAbsent : Bool} {ttl : Option Nat}
    (kept : Guards wait now standing store)
    (spares : Spares wait standing (.set key value ifAbsent ttl)) :
    Guards wait now standing (store.exec (.set key value ifAbsent ttl)).2 := by
  obtain ⟨clock, endless, holds⟩ := kept
  simp only [Redis.Store.exec]
  by_cases present : (ifAbsent && store.holds key) = true
  · rw [if_pos present]
    exact ⟨clock, endless, holds⟩
  rw [if_neg present]
  have elsewhere : ∀ shard, key ≠ .waitIndex shard := by
    rintro shard rfl
    exact spares
  refine ⟨clock, fun shard => ?_, ?_⟩
  · dsimp only
    rw [Function.update_of_ne (elsewhere shard).symm]
    exact endless shard
  · cases standing with
    | unknown => trivial
    | waiting =>
        have apart : waitIndexKey wait.sessionId ≠ key := (elsewhere _).symm
        simp only [WaitStanding.Holds, indexed, Redis.Store.score, Redis.Store.drop] at holds ⊢
        rw [Function.update_of_ne apart]
        exact holds
    | answered lapse =>
        obtain ⟨recent, old, deadline, found, expires, later⟩ := holds
        refine ⟨recent, ?_⟩
        by_cases same : consumedMarkerKey wait.sessionId (encodeMember wait) = key
        · subst same
          cases ifAbsent with
          | true => cases spares
          | false =>
              have renewed : ttl = some waitConsumedTtlSeconds := spares
              subst renewed
              refine ⟨value, _, Function.update_self _ _ _, Function.update_self _ _ _, ?_⟩
              exact recent
        · refine ⟨old, deadline, ?_, ?_, later⟩
          · exact (Function.update_of_ne same _ _).trans found
          · exact (Function.update_of_ne same _ _).trans expires

theorem exec {command : RedisCommand} (kept : Guards wait now standing store)
    (spares : Spares wait standing command) : Guards wait now standing (store.exec command).2 := by
  obtain ⟨clock, endless, holds⟩ := kept
  cases command with
  | zadd key member rank =>
      cases key <;> try cases spares
      rename_i shard
      refine ⟨clock, endless, ?_⟩
      cases standing with
      | unknown => trivial
      | waiting =>
          simp only [WaitStanding.Holds, indexed, Redis.Store.score_zadd] at holds ⊢
          split
          · rfl
          · exact holds
      | answered lapse => exact holds
  | zrem key member =>
      cases key <;> try cases spares
      rename_i shard
      refine ⟨clock, endless, ?_⟩
      cases standing with
      | unknown => trivial
      | waiting =>
          simp only [WaitStanding.Holds, indexed, Redis.Store.score_zrem] at holds ⊢
          rw [if_neg fun same => spares rfl same.2.symm]
          exact holds
      | answered lapse => exact holds
  | zremrangebyscore key low high =>
      cases key <;> try cases spares
      rename_i shard
      refine ⟨clock, endless, ?_⟩
      cases standing with
      | unknown => trivial
      | waiting => exact absurd rfl spares
      | answered lapse => exact holds
  | existsKey key => exact ⟨clock, endless, holds⟩
  | del key =>
      cases key <;> try cases spares
      exact del ⟨clock, endless, holds⟩ spares
  | set key value ifAbsent ttl => exact set ⟨clock, endless, holds⟩ spares
  | _ => cases spares

theorem marked (kept : Guards wait now standing store) :
    Guards wait now (.answered (now + 1000 * waitConsumedTtlSeconds))
      (store.exec (.set (consumedMarkerKey wait.sessionId (encodeMember wait)) (.text "1") false
        (some waitConsumedTtlSeconds))).2 := by
  have spared : Spares wait .unknown (.set (consumedMarkerKey wait.sessionId (encodeMember wait))
      (.text "1") false (some waitConsumedTtlSeconds)) := rfl
  have known := kept.unknown.exec spared
  refine ⟨known.clock, known.endless, ?_⟩
  have clock := kept.clock
  refine ⟨by rw [known.clock], .text "1", _, Function.update_self _ _ _,
    Function.update_self _ _ _, ?_⟩
  simp only [Redis.Store.deadline]
  omega

theorem advance {later : Int} (kept : Guards wait now standing store) (ahead : now ≤ later) :
    Guards wait later (standing.passed later) (store.advance later) := by
  obtain ⟨clock, endless, holds⟩ := kept
  refine ⟨rfl, fun shard => by simp [Redis.Store.advance, endless shard], ?_⟩
  cases standing with
  | unknown => trivial
  | waiting =>
      simp only [WaitStanding.passed, WaitStanding.Holds, indexed, Redis.Store.score,
        Redis.Store.advance, waitIndexKey, endless] at holds ⊢
      exact holds
  | answered lapse =>
      obtain ⟨recent, value, deadline, found, expires, unlapsed⟩ := holds
      simp only [WaitStanding.passed]
      split
      · trivial
      · rename_i ongoing
        have alive : ¬ deadline ≤ later := by omega
        refine ⟨?_, value, deadline, ?_, ?_, unlapsed⟩
        · simp only [Redis.Store.advance]
          omega
        · simpa [Redis.Store.advance, expires, alive] using found
        · simp [Redis.Store.advance, expires, alive]

end Guards

/-! ### What each call does to the standing -/

def sparing (wait : WaitIndexMember) (standing : WaitStanding) : Contract effects :=
  .only fun op => match op with
    | .redis command => Spares wait standing command
    | .now => True
    | _ => False

section Calls

variable {σ : Type} {wait : WaitIndexMember} {standing : WaitStanding}

theorem dateNow_spares : (dateNow : Proc σ Int).Uses (sparing wait standing) :=
  Task.uses_await trivial

theorem registerWait_spares {params : RegisterWaitParams}
    (apart : (∃ lapse, standing = .answered lapse) →
      consumedMarkerKey params.sessionId params.member ≠
        consumedMarkerKey wait.sessionId (encodeMember wait)) :
    (registerWait params : Proc σ PUnit).Uses (sparing wait standing) := by
  refine Task.uses_failSoft (Task.uses_bind dateNow_spares fun now => ?_)
  refine uses_redis_bind trivial fun _ _ => ?_
  exact Task.uses_failSoft (uses_redis_bind apart fun _ _ => Task.uses_pure _)

theorem tryCandidates_spares (sessionId : String) (members : List String)
    (others : standing = .waiting → ∀ member ∈ members, member ≠ encodeMember wait) :
    (tryCandidates sessionId members : Proc σ _).Uses (sparing wait standing) := by
  induction members with
  | nil => exact Task.uses_pure _
  | cons member rest ih =>
      refine uses_redis_bind (fun open_ => others open_ member (by simp)) fun removed _ => ?_
      split
      · refine Task.uses_bind (Task.uses_failSoft ?_) fun _ => Task.uses_pure _
        exact uses_redis_bind rfl fun _ _ => Task.uses_pure _
      · refine uses_redis_bind trivial fun consumed _ => ?_
        split
        · exact Task.uses_pure _
        · exact ih fun waiting other listed => others waiting other (by simp [listed])

theorem consumeWaitEntry_spares (header : MessageHeader)
    (others : standing = .waiting → ∀ member ∈ candidateMembers header,
      member ≠ encodeMember wait) :
    (consumeWaitEntry header : Proc σ _).Uses (sparing wait standing) :=
  Task.uses_tryCatch (tryCandidates_spares _ _ others) fun _ => Task.uses_pure _

theorem extendDeadline_spares {due : DueEntry} (listed : ∃ shard, due.indexKey = .waitIndex shard) :
    (extendDeadline due : Proc σ PUnit).Uses (sparing wait standing) := by
  obtain ⟨shard, indexes⟩ := listed
  refine Task.uses_bind (Task.uses_failSoft (uses_redis_bind trivial fun _ _ =>
    Task.uses_pure _)) fun _ => ?_
  refine Task.uses_bind dateNow_spares fun now => ?_
  rw [indexes]
  exact uses_redis_bind trivial fun _ _ => Task.uses_pure _

theorem dropEntry_spares {due : DueEntry} (outcome : SweepOutcome)
    (listed : ∃ shard, due.indexKey = .waitIndex shard)
    (other : standing = .waiting → due.member ≠ encodeMember wait) :
    (dropEntry due outcome : Proc σ _).Uses (sparing wait standing) := by
  obtain ⟨shard, indexes⟩ := listed
  unfold dropEntry
  rw [indexes]
  exact uses_redis_bind other fun _ _ => Task.uses_pure _

theorem pruneShard_spares_standing (shard : Nat) (closed : standing ≠ .waiting) :
    (pruneShard shard : Proc σ Nat).Uses (sparing wait standing) :=
  Task.uses_bind dateNow_spares fun _ => uses_redis closed

variable {now : Int} {store : RedisStore} {refuses : Outage}

theorem Guards.perform {call : GateCall} (kept : Guards wait now standing store)
    (uses : call.program.Uses (sparing wait standing)) :
    Guards wait now standing ((GateEvent.call call refuses).perform store) := by
  refine perform_of_wp (Task.wp_mono (Task.wp_of_uses ?_ ?_ uses trivial kept) ?_)
  · rintro before _ held rfl -
    exact held
  · intro before op held _ allowed
    refine ⟨trivial, fun reply after served _ => ⟨trivial, ?_⟩⟩
    cases op with
    | redis command =>
        have answered : (reply, after) = outageAnswer refuses before (.redis command) := served
        cases refusal : refuses command with
        | true =>
            have unchanged : (reply, after) = (.error "the command was refused", before) := by
              rw [answered]
              exact if_pos refusal
            cases unchanged
            exact held
        | false =>
            have executed : (reply, after) = before.exec command := by
              rw [answered]
              exact if_neg (by simp [refusal])
            have same : after = (before.exec command).2 := congrArg Prod.snd executed
            rw [same]
            exact held.exec allowed
    | now =>
        cases served
        exact held
    | _ => cases allowed
  · exact fun _ _ _ _ held => held.2

theorem Guards.register {params : RegisterWaitParams} (kept : Guards wait now standing store)
    (own : params.member = encodeMember wait) :
    Guards wait now (standing.after wait now refuses (.register params))
      ((GateEvent.call (.register params) refuses).perform store) := by
  have session : params.sessionId = wait.sessionId :=
    congrArg WaitIndexMember.sessionId (encodeMember_injective own)
  refine perform_of_wp (Task.wp_failSoft (Task.wp_alone_bind (wp_dateNow_outage ?_)) trivial)
  simp only [WaitStanding.after, if_pos own]
  rw [kept.clock]
  refine Task.wp_alone_bind (wp_redis_outage (fun refusal error => ?_) fun refusal => ?_)
  · rw [if_pos refusal]
    rintro _ rfl -
    exact kept
  · rw [if_neg (by simp [refusal])]
    have listed : Guards wait now .waiting (store.exec (.zadd (waitIndexKey params.sessionId)
        params.member (now + max 0 params.timeoutMs))).2 := by
      refine ⟨kept.clock, kept.endless, ?_⟩
      simp only [WaitStanding.Holds, indexed, Redis.Store.score_zadd]
      rw [if_pos ⟨by rw [session], own.symm⟩]
      rfl
    refine Task.wp_failSoft (Task.wp_alone_bind (wp_redis_outage (fun _ error => ?_)
      fun _ => ?_)) trivial
    · rintro _ rfl - _ rfl -
      exact listed
    · refine Task.wp_alone_pure ?_
      rintro _ rfl - _ rfl -
      exact listed.exec fun answered => by cases answered.choose_spec

theorem Guards.claim {header : MessageHeader} (kept : Guards wait now .waiting store)
    (own : memberFromResume header = encodeMember wait) (sentIn : Nat) :
    Guards wait now (WaitStanding.claimed wait.sessionId (encodeMember wait) now refuses .waiting)
      ((GateEvent.call (.reply sentIn header) refuses).perform store) := by
  have session : header.sessionId = wait.sessionId :=
    congrArg WaitIndexMember.sessionId (encodeMember_injective own)
  have first : ∃ rest, candidateMembers header = encodeMember wait :: rest := by
    unfold candidateMembers
    dsimp only
    split
    · exact ⟨_, by rw [own]; rfl⟩
    · exact ⟨_, by rw [own]⟩
  obtain ⟨rest, candidates⟩ := first
  refine perform_of_wp (Task.wp_alone_bind (Task.wp_alone_tryCatch ?_))
  rw [candidates, session]
  unfold tryCandidates
  simp only [WaitStanding.claimed]
  refine Task.wp_alone_bind (wp_redis_outage (fun refusal error => ?_) fun refusal => ?_)
  · rw [if_pos refusal]
    exact Task.wp_alone_pure (Task.wp_alone_pure kept)
  · rw [if_neg (by simp [refusal])]
    have present : (store.score (waitIndexKey wait.sessionId) (encodeMember wait)).isSome = true :=
      kept.holds
    have known : Guards wait now .unknown
        (store.exec (.zrem (waitIndexKey wait.sessionId) (encodeMember wait))).2 :=
      kept.unknown.exec fun waiting => by cases waiting
    rw [Redis.Store.exec_zrem_reply, present]
    dsimp only [Except.mapError, if_true]
    rw [if_pos (by decide)]
    unfold markConsumed
    refine Task.wp_alone_bind (Task.wp_failSoft (Task.wp_alone_bind
      (wp_redis_outage (fun refusal error => ?_) fun refusal => ?_)) trivial)
    · rw [if_pos refusal]
      rintro _ rfl -
      exact Task.wp_alone_pure (Task.wp_alone_pure known)
    · rw [if_neg (by simp [refusal])]
      refine Task.wp_alone_pure ?_
      rintro _ rfl -
      exact Task.wp_alone_pure (Task.wp_alone_pure known.marked)

theorem candidate_of_subtask {header : MessageHeader} {member : String}
    (subtask : wait.childMessageId ≠ "") (listed : member ∈ candidateMembers header)
    (named : member = encodeMember wait) : memberFromResume header = encodeMember wait := by
  subst named
  unfold candidateMembers at listed
  dsimp only at listed
  have asks : encodeMember wait ≠ askUserMember header := by
    intro same
    exact subtask (congrArg WaitIndexMember.childMessageId (encodeMember_injective same))
  split at listed
  · simp only [List.mem_append, List.mem_singleton, asks, or_false] at listed
    exact listed.symm
  · exact (List.mem_singleton.mp listed).symm

theorem Guards.call {call : GateCall} (kept : Guards wait now standing store)
    (subtask : wait.childMessageId ≠ "")
    (possible : (GateEvent.call call refuses).Possible store) :
    Guards wait now (standing.after wait now refuses call)
      ((GateEvent.call call refuses).perform store) := by
  cases call with
  | register params =>
      by_cases own : params.member = encodeMember wait
      · exact kept.register own
      simp only [WaitStanding.after, if_neg own]
      split
      · cases standing with
        | answered lapse =>
            exact kept.unknown.perform (registerWait_spares fun answered => by
              cases answered.choose_spec)
        | unknown =>
            exact kept.perform (registerWait_spares fun answered => by
              cases answered.choose_spec)
        | waiting =>
            exact kept.perform (registerWait_spares fun answered => by
              cases answered.choose_spec)
      · rename_i apart
        exact kept.perform (registerWait_spares fun _ => apart)
  | reply sentIn header =>
      have followed (held : standing = .waiting → ∀ member ∈ candidateMembers header,
          member ≠ encodeMember wait) :
          Guards wait now standing
            ((GateEvent.call (.reply sentIn header) refuses).perform store) :=
        kept.perform (Task.uses_bind (consumeWaitEntry_spares header held) fun _ =>
          Task.uses_pure _)
      simp only [WaitStanding.after]
      split
      · rename_i own
        cases standing with
        | waiting => exact kept.claim own sentIn
        | unknown => exact followed fun waiting => by cases waiting
        | answered lapse => exact followed fun waiting => by cases waiting
      · rename_i other
        exact followed fun _ member listed named =>
          other (candidate_of_subtask subtask listed named)
  | renew due => exact kept.perform (extendDeadline_spares possible)
  | dismiss due outcome =>
      have dropped {standing : WaitStanding} (kept : Guards wait now standing store)
          (other : standing = .waiting → due.member ≠ encodeMember wait) :
          Guards wait now standing
            ((GateEvent.call (.dismiss due outcome) refuses).perform store) :=
        kept.perform (Task.uses_bind (dropEntry_spares outcome possible other) fun _ =>
          Task.uses_pure _)
      simp only [WaitStanding.after]
      split
      · cases standing with
        | waiting => exact dropped kept.unknown fun waiting => by cases waiting
        | unknown => exact dropped kept fun waiting => by cases waiting
        | answered lapse => exact dropped kept fun waiting => by cases waiting
      · rename_i other
        exact dropped kept fun _ => other
  | prune shard =>
      have pruned {standing : WaitStanding} (kept : Guards wait now standing store)
          (closed : standing ≠ .waiting) :
          Guards wait now standing ((GateEvent.call (.prune shard) refuses).perform store) :=
        kept.perform (Task.uses_bind (pruneShard_spares_standing shard closed) fun _ =>
          Task.uses_pure _)
      cases standing with
      | waiting => exact pruned kept.unknown (by simp [WaitStanding.after, WaitStanding.dismissed])
      | unknown => exact pruned kept (by simp [WaitStanding.after, WaitStanding.dismissed])
      | answered lapse => exact pruned kept (by simp [WaitStanding.after, WaitStanding.dismissed])

end Calls

theorem GateRun.kept {permits : List GateEvent → GateEvent → Prop} {history : List GateEvent}
    {store : RedisStore} (run : GateRun permits history store) {wait : WaitIndexMember}
    (subtask : wait.childMessageId ≠ "") :
    Guards wait (clockAfter history) (standingAfter wait history) store := by
  induction run with
  | start => exact ⟨rfl, fun _ => rfl, trivial⟩
  | @step history store event run permitted possible ih =>
      cases event with
      | call call refuses => exact ih.call subtask possible
      | pass now =>
          have later : store.clock ≤ now := possible
          rw [ih.clock] at later
          exact ih.advance later

def Recognised (store : RedisStore) (header : MessageHeader) : Prop :=
  indexed header.sessionId store (memberFromResume header) ∨
  marked header.sessionId store (memberFromResume header)

theorem recognised_of_standing {header : MessageHeader} {now : Int} {standing : WaitStanding}
    {store : RedisStore}
    (kept : Guards ⟨header.sessionId, header.messageId, header.parentMessageId, header.taskGroupId⟩
      now standing store) (known : standing ≠ .unknown) : Recognised store header := by
  obtain ⟨-, -, holds⟩ := kept
  cases standing with
  | unknown => exact absurd rfl known
  | waiting => exact .inl holds
  | answered lapse =>
      obtain ⟨-, value, deadline, found, -⟩ := holds
      refine .inr ?_
      have present : store.text (consumedMarkerKey header.sessionId (memberFromResume header)) =
          some value := found
      simp [marked, Redis.Store.holds, present]

def askUserWaits (store : RedisStore) (header : MessageHeader) : Prop :=
  indexed header.sessionId store (askUserMember header)

instance (store : RedisStore) (header : MessageHeader) : Decidable (askUserWaits store header) :=
  inferInstanceAs (Decidable (indexed _ _ _))

theorem askUserMember_ne {header : MessageHeader} (subtask : header.parentMessageId ≠ "") :
    askUserMember header ≠ memberFromResume header := by
  intro same
  exact subtask (congrArg WaitIndexMember.childMessageId (encodeMember_injective same)).symm

section Reply

variable {store : RedisStore} {refuses : Outage} {header : MessageHeader}

theorem markConsumed_askUser {member : String} (waits : askUserWaits store header) :
    (markConsumed header.sessionId member : Proc Unit PUnit).wp (underOutage refuses)
      (fun outcome _ after => outcome = .ok ⟨⟩ ∧ askUserWaits after header) () store := by
  refine Task.wp_failSoft (Task.wp_alone_bind (wp_redis_outage (fun _ error => ?_)
    fun _ => ?_)) trivial
  · rintro _ rfl -
    exact ⟨rfl, waits⟩
  · refine Task.wp_alone_pure ?_
    rintro _ rfl -
    exact ⟨rfl, (indexed_set_marker _ _ _ _).mpr waits⟩

theorem reply_spares_askUser (sentIn : Nat) (subtask : header.parentMessageId ≠ "")
    (stops : header.taskGroupId ≠ "" ∨ Recognised store header)
    (waits : askUserWaits store header) :
    askUserWaits ((GateEvent.call (.reply sentIn header) refuses).perform store) header := by
  have apart := askUserMember_ne subtask
  have candidates : ∃ rest, candidateMembers header = memberFromResume header :: rest ∧
      (header.taskGroupId ≠ "" → rest = []) := by
    unfold candidateMembers
    dsimp only
    split
    · rename_i single
      exact ⟨_, rfl, fun grouped => absurd single.1 grouped⟩
    · exact ⟨[], rfl, fun _ => rfl⟩
  obtain ⟨rest, candidates, alone⟩ := candidates
  suffices held : (GateCall.program (.reply sentIn header)).wp (underOutage refuses)
      (fun _ _ after => askUserWaits after header) () store from perform_of_wp held
  refine Task.wp_alone_bind (Task.wp_alone_tryCatch ?_)
  rw [candidates]
  unfold tryCandidates
  refine Task.wp_alone_bind (wp_redis_outage (fun _ error => ?_) fun _ => ?_)
  · exact Task.wp_alone_pure (Task.wp_alone_pure waits)
  have still : askUserWaits (store.exec (.zrem (waitIndexKey header.sessionId)
      (memberFromResume header))).2 header := (indexed_zrem _ _).mpr ⟨apart, waits⟩
  rw [Redis.Store.exec_zrem_reply]
  dsimp only [Except.mapError]
  split
  · refine Task.wp_alone_bind (Task.wp_mono (markConsumed_askUser still) ?_)
    rintro outcome memory after - ⟨rfl, kept⟩
    exact Task.wp_alone_pure (Task.wp_alone_pure kept)
  · rename_i absent
    refine Task.wp_alone_bind (wp_redis_outage (fun _ error => ?_) fun _ => ?_)
    · exact Task.wp_alone_pure (Task.wp_alone_pure still)
    change (if (store.exec _).2.holds _ = true then _ else _ : Proc Unit WaitGateDecision).wp
      _ _ _ _
    split
    · exact Task.wp_alone_pure (Task.wp_alone_pure still)
    · rename_i unmarked
      rcases stops with grouped | indexed | marked
      · rw [alone grouped]
        exact Task.wp_alone_pure (Task.wp_alone_pure still)
      · have present : (store.score (waitIndexKey header.sessionId)
            (memberFromResume header)).isSome = true := indexed
        rw [present] at absent
        exact absurd (by decide) absent
      · exact absurd ((marked_zrem _ _).mpr marked) unmarked

end Reply

def calm : Outage := fun _ => false

section Calm

variable {sessionId member : String} {rest : List String} {store : RedisStore}
  {post : Except JsError WaitGateDecision → Unit → RedisStore → Prop}

theorem wp_redis_calm {σ : Type} {memory : σ} {command : RedisCommand}
    {post : Except JsError command.Reply → σ → RedisStore → Prop}
    (holds : post ((store.exec command).1.mapError redisError) memory (store.exec command).2) :
    (redis command : Proc σ _).wp (underOutage calm) post memory store :=
  wp_redis_outage (fun refused => by cases refused) fun _ => holds

theorem tryCandidates_claims (waits : indexed sessionId store member)
    (holds : post (.ok ⟨true, allowClaimed, member⟩) ()
      ((store.exec (.zrem (waitIndexKey sessionId) member)).2.exec
        (.set (consumedMarkerKey sessionId member) (.text "1") false
          (some waitConsumedTtlSeconds))).2) :
    (tryCandidates sessionId (member :: rest) : Proc Unit _).wp (underOutage calm) post ()
      store := by
  have present : (store.score (waitIndexKey sessionId) member).isSome = true := waits
  unfold tryCandidates
  refine Task.wp_alone_bind (wp_redis_calm ?_)
  rw [Redis.Store.exec_zrem_reply, present]
  dsimp only [Except.mapError, if_true]
  rw [if_pos (by decide)]
  refine Task.wp_alone_bind (Task.wp_failSoft (Task.wp_alone_bind (wp_redis_calm ?_)) trivial)
  refine Task.wp_alone_pure ?_
  rintro _ rfl -
  exact Task.wp_alone_pure holds

theorem tryCandidates_looks (gone : ¬ indexed sessionId store member)
    (denies : marked sessionId store member → post (.ok ⟨false, denyAlreadyConsumed, member⟩) ()
      (store.exec (.zrem (waitIndexKey sessionId) member)).2)
    (skips : ¬ marked sessionId store member →
      (tryCandidates sessionId rest : Proc Unit _).wp (underOutage calm) post ()
        (store.exec (.zrem (waitIndexKey sessionId) member)).2) :
    (tryCandidates sessionId (member :: rest) : Proc Unit _).wp (underOutage calm) post ()
      store := by
  have absent : (store.score (waitIndexKey sessionId) member).isSome = false := by
    simpa [indexed] using gone
  unfold tryCandidates
  refine Task.wp_alone_bind (wp_redis_calm ?_)
  rw [Redis.Store.exec_zrem_reply, absent]
  change (redis _ >>= _ : Proc Unit WaitGateDecision).wp _ _ _ _
  refine Task.wp_alone_bind (wp_redis_calm ?_)
  change (if (store.exec _).2.holds _ = true then _ else _ : Proc Unit WaitGateDecision).wp _ _ _ _
  split
  · rename_i found
    exact Task.wp_alone_pure (denies ((marked_zrem _ _).mp found))
  · rename_i unmarked
    exact skips fun found => unmarked ((marked_zrem _ _).mpr found)

theorem reply_takes_askUser {header : MessageHeader} (sentIn : Nat)
    (subtask : header.parentMessageId ≠ "") (ungrouped : header.taskGroupId = "")
    (unknown : ¬ Recognised store header) :
    ¬ askUserWaits ((GateEvent.call (.reply sentIn header) calm).perform store) header := by
  have candidates : candidateMembers header = [memberFromResume header, askUserMember header] := by
    unfold candidateMembers
    simp [ungrouped, askUserMember_ne subtask]
  suffices held : (GateCall.program (.reply sentIn header)).wp (underOutage calm)
      (fun _ _ after => ¬ askUserWaits after header) () store from perform_of_wp held
  refine Task.wp_alone_bind (Task.wp_alone_tryCatch ?_)
  rw [candidates]
  have removed (before : RedisStore) : ¬ askUserWaits (before.exec
      (.zrem (waitIndexKey header.sessionId) (askUserMember header))).2 header :=
    fun found => ((indexed_zrem _ _).mp found).1 rfl
  refine tryCandidates_looks (fun indexed => unknown (.inl indexed))
    (fun marked => absurd (.inr marked) unknown) fun _ => ?_
  by_cases waits : indexed header.sessionId (store.exec (.zrem (waitIndexKey header.sessionId)
      (memberFromResume header))).2 (askUserMember header)
  · refine tryCandidates_claims waits (Task.wp_alone_pure ?_)
    exact fun found => removed _ ((indexed_set_marker _ _ _ _).mp found)
  · refine tryCandidates_looks waits (fun _ => Task.wp_alone_pure (removed _)) fun _ => ?_
    exact Task.wp_alone_pure (Task.wp_alone_pure (removed _))

end Calm

/-! ### The law -/

def waitOfReply (header : MessageHeader) : WaitIndexMember :=
  ⟨header.sessionId, header.messageId, header.parentMessageId, header.taskGroupId⟩

/-- A sub-task's reply outside any group comes while its own wait is open or marked. -/
def OwnWaitKnown (dispatched : String → Prop) (history : List GateEvent) : GateEvent → Prop
  | .call (.reply _ header) _ => dispatched header.parentMessageId → header.taskGroupId = "" →
      standingAfter (waitOfReply header) history ≠ .unknown
  | _ => True

theorem subtask_reply_spares_askUser (dispatched : String → Prop) (named : ¬ dispatched "")
    (history : List GateEvent) (store : RedisStore)
    (run : GateRun (OwnWaitKnown dispatched) history store) (sentIn : Nat)
    (header : MessageHeader) (refuses : Outage)
    (known : OwnWaitKnown dispatched history (.call (.reply sentIn header) refuses))
    (reply : dispatched header.parentMessageId) (waits : askUserWaits store header) :
    askUserWaits ((GateEvent.call (.reply sentIn header) refuses).perform store) header := by
  have subtask : header.parentMessageId ≠ "" := by
    intro none
    rw [none] at reply
    exact named reply
  refine reply_spares_askUser sentIn subtask ?_ waits
  by_cases ungrouped : header.taskGroupId = ""
  · have kept : Guards (waitOfReply header) (clockAfter history) _ store := run.kept subtask
    exact .inr (recognised_of_standing kept (known reply ungrouped))
  · exact .inl ungrouped

def childWait : RegisterWaitParams :=
  { sessionId := "session", parentMessageId := "caller", childMessageId := "child", timeoutMs := 1 }

def userWait : RegisterWaitParams := { childWait with childMessageId := "" }

def childReply : MessageHeader :=
  { messageId := "caller", sessionId := "session", traceId := "trace", parentMessageId := "child" }

def userAnswer : MessageHeader := { childReply with parentMessageId := "" }

/-- The caller calls a sub-task, whose wait is registered or not, and then asks the user. -/
def askingHistory (refuses : Outage) : List GateEvent :=
  [.call (.register userWait) calm, .call (.register childWait) refuses]

def askingStore (refuses : Outage) : RedisStore :=
  (GateEvent.call (.register userWait) calm).perform
    ((GateEvent.call (.register childWait) refuses).perform .empty)

theorem askingStore_run {permits : List GateEvent → GateEvent → Prop} (refuses : Outage)
    (registers : ∀ history params refuses, permits history (.call (.register params) refuses)) :
    GateRun permits (askingHistory refuses) (askingStore refuses) :=
  (GateRun.start.step (registers _ _ _) trivial).step (registers _ _ _) trivial

theorem subtask_reply_spares_askUser_registered :
    askUserWaits ((GateEvent.call (.reply 0 childReply) calm).perform
      (askingStore calm)) childReply := by
  refine subtask_reply_spares_askUser (· = "child") (by decide) (askingHistory calm) _
    (askingStore_run _ fun _ _ _ => trivial) 0 childReply _ ?_ rfl (by decide +kernel)
  intro _ _
  decide +kernel

/-- The wait of the sub-task was never written: its reply takes the user's wait, and the answer of
the user is then refused. -/
theorem subtask_reply_takes_askUser :
    GateRun (fun _ _ => True) (askingHistory fun _ => true) (askingStore fun _ => true) ∧
    askUserWaits (askingStore fun _ => true) childReply ∧
    ¬ askUserWaits ((GateEvent.call (.reply 0 childReply) calm).perform
      (askingStore fun _ => true)) childReply ∧
    gateDecision (calm) ((GateEvent.call (.reply 0 childReply) calm).perform
      (askingStore fun _ => true)) userAnswer =
        .ok ⟨false, denyAlreadyConsumed, askUserMember userAnswer⟩ :=
  ⟨askingStore_run _ fun _ _ _ => trivial, by decide +kernel, by decide +kernel,
    by decide +kernel⟩

end ByFramework
