import ByFramework.Async.Custody
import ByFramework.Delivery

/-! In whose hands an entry of a control stream is, and what steps keep it in one pair of hands. -/

namespace ByFramework

open Async

def FleetTask.entry : FleetTask → Option (Key × Nat)
  | .message _ _ found => some found.place
  | _ => none

section Fleet

variable {ι : Type} [DecidableEq ι]

def overtakes (index : ι) (key : Key) (entry : Nat) (flag : Bool) : Event effects ι → Bool
  | .issue other (.redis (.xpending looked _ _)) (.ok _) =>
      flag && !decide (other = index ∧ looked = key)
  | .issue other (.redis (.xclaim claimed _ _ _ entries)) _ =>
      flag || decide (other ≠ index ∧ claimed = key ∧ entry ∈ entries)
  | _ => flag

def overtaken (index : ι) (key : Key) (entry : Nat) (past : List (Event effects ι)) : Bool :=
  past.foldl (overtakes index key entry) false

/-- No claim takes an entry that another task asked for after the look it goes by. -/
def ClaimsFresh (past : List (Event effects ι)) (event : Event effects ι) : Prop :=
  ∀ index key name consumer minIdle entries reply,
    event = .issue index (.redis (.xclaim key name consumer minIdle entries)) reply →
      ∀ entry, entry ∈ (match reply with
        | .ok taken => taken.map Prod.fst
        | .error _ => entries) → overtaken index key entry past = false

/-- The process of a worker is gone: none of its tasks runs, and it has no messages to start. -/
def Gone (tasks : ι → FleetTask) (config : Config effects Fleet ι Unit) (workerId : String) :
    Prop :=
  (∀ index, (tasks index).home = some workerId → config.running index = false) ∧
    (config.state.process workerId).handed = []

/-- A consume loop finds a lease lapsed only where its process is gone. -/
def LapsesAreDeaths (tasks : ι → FleetTask) (config : Config effects Fleet ι Unit)
    (event : Event effects ι) : Prop :=
  ∀ index workerId lease,
    event = .issue index (.redis (.get (.workerOnlineLease workerId))) (.ok lease) →
      (tasks index).isConsume = true → leaseOnline lease = false → Gone tasks config workerId

/-! ### Who has an entry in hand -/

def holderHome (tasks : ι → FleetTask) : ι ⊕ String → Option String
  | .inl index => (tasks index).home
  | .inr workerId => some workerId

def weight (tasks : ι → FleetTask) (past : List (Event effects ι))
    (config : Config effects Fleet ι Unit) (place : Key × Nat) : ι ⊕ String → Nat
  | .inl index =>
      if config.running index then
        (memoOf tasks past index).credit place +
          if (tasks index).entry = some place then 1 else 0
      else 0
  | .inr workerId =>
      ((config.state.process workerId).handed.map StreamMessage.place).count place

def LookHolds (tasks : ι → FleetTask) (groupOf : Key → String) (past : List (Event effects ι))
    (config : Config effects Fleet ι Unit) (index : ι) (key : Key)
    (waiting : List Redis.PendingSummary) : Prop :=
  (waiting.map Redis.PendingSummary.entry).Nodup ∧ ∀ summary ∈ waiting,
    summary.entry < config.state.store.delivered key (groupOf key) ∧
      (overtaken index key summary.entry past = false →
        ∀ owner, config.state.store.owned key (groupOf key) summary.entry = some owner →
          owner.consumer = summary.consumer ∧
            (summary.consumer ∈ (memoOf tasks past index).offline →
              ∀ holder, weight tasks past config (key, summary.entry) holder = 0))

/-- Each entry is in the hands of one holder, of the worker that has it. -/
structure Custody (tasks : ι → FleetTask) (groupOf : Key → String)
    (past : List (Event effects ι)) (config : Config effects Fleet ι Unit) : Prop where
  lasting : ∀ key, key.isControl = true → config.state.store.expiresAt key = none
  orderly : ∀ key, key.isControl = true → config.state.store.Orderly key (groupOf key)
  sole : ∀ key entry, key.isControl = true → Sole (weight tasks past config (key, entry))
  held : ∀ key entry holder, key.isControl = true →
    0 < weight tasks past config (key, entry) holder →
      entry < config.state.store.delivered key (groupOf key) ∧
        ∀ owner, config.state.store.owned key (groupOf key) entry = some owner →
          holderHome tasks holder = some owner.consumer
  looks : ∀ index key waiting, key.isControl = true → (tasks index).isConsume = true →
    (memoOf tasks past index).pending = some (key, waiting) →
      LookHolds tasks groupOf past config index key waiting

section Steps

variable {tasks : ι → FleetTask} {groupOf : Key → String} {past : List (Event effects ι)}
  {before after : Config effects Fleet ι Unit} {event : Event effects ι}

theorem overtaken_append (index : ι) (key : Key) (entry : Nat) (past : List (Event effects ι))
    (event : Event effects ι) : overtaken index key entry (past ++ [event]) =
      overtakes index key entry (overtaken index key entry past) event := by
  simp only [overtaken, List.foldl_append, List.foldl_cons, List.foldl_nil]

theorem LookHolds.keep {index : ι} {key : Key} {waiting : List Redis.PendingSummary}
    (look : LookHolds tasks groupOf past before index key waiting)
    (grows : before.state.store.delivered key (groupOf key) ≤
      after.state.store.delivered key (groupOf key))
    (alike : (memoOf tasks (past ++ [event]) index).offline = (memoOf tasks past index).offline)
    (each : ∀ entry, entry < before.state.store.delivered key (groupOf key) →
      overtaken index key entry (past ++ [event]) = false →
        overtaken index key entry past = false ∧
        ∀ owner, after.state.store.owned key (groupOf key) entry = some owner →
          before.state.store.owned key (groupOf key) entry = some owner ∧
            ((∀ holder, weight tasks past before (key, entry) holder = 0) →
              ∀ holder, weight tasks (past ++ [event]) after (key, entry) holder = 0)) :
    LookHolds tasks groupOf (past ++ [event]) after index key waiting := by
  refine ⟨look.1, fun summary listed => ?_⟩
  obtain ⟨low, owners⟩ := look.2 summary listed
  refine ⟨by omega, fun unclaimed owner found => ?_⟩
  obtain ⟨earlier, kept⟩ := each summary.entry low unclaimed
  obtain ⟨had, empty⟩ := kept owner found
  obtain ⟨owns, offline⟩ := owners earlier owner had
  rw [alike]
  exact ⟨owns, fun lapsed => empty (offline lapsed)⟩

theorem Custody.quiet (custody : Custody tasks groupOf past before)
    (lasting : ∀ key, key.isControl = true → after.state.store.expiresAt key = none)
    (lets : ∀ key, key.isControl = true →
      before.state.store.Lets after.state.store key (groupOf key))
    (fewer : ∀ place holder, weight tasks (past ++ [event]) after place holder ≤
      weight tasks past before place holder)
    (looks : ∀ index key waiting, key.isControl = true → (tasks index).isConsume = true →
      (memoOf tasks (past ++ [event]) index).pending = some (key, waiting) →
        LookHolds tasks groupOf (past ++ [event]) after index key waiting ∨
          (memoOf tasks (past ++ [event]) index).pending = (memoOf tasks past index).pending ∧
          (memoOf tasks (past ++ [event]) index).offline = (memoOf tasks past index).offline ∧
          ∀ entry, overtaken index key entry (past ++ [event]) = false →
            overtaken index key entry past = false) :
    Custody tasks groupOf (past ++ [event]) after where
  lasting := lasting
  orderly key control := (lets key control).orderly (custody.orderly key control)
  sole key entry control := (custody.sole key entry control).shrink fun holder => fewer _ holder
  held key entry holder control has := by
    have less := fewer (key, entry) holder
    obtain ⟨low, owners⟩ := custody.held key entry holder control (by omega)
    rw [(lets key control).delivered]
    exact ⟨low, fun owner found => owners owner ((lets key control).owned entry owner found)⟩
  looks index key waiting control consumes shown := by
    rcases looks index key waiting control consumes shown with look | ⟨same, alike, claims⟩
    · exact look
    · have look := custody.looks index key waiting control consumes (same ▸ shown)
      refine look.keep (lets key control).delivered.symm.le alike fun entry _ unclaimed => ?_
      refine ⟨claims entry unclaimed, fun owner found => ?_⟩
      refine ⟨(lets key control).owned entry owner found, fun empty holder => ?_⟩
      have less := fewer (key, entry) holder
      have none := empty holder
      omega
theorem Custody.gains {taker : ι ⊕ String} {got : Key × Nat → Prop}
    (custody : Custody tasks groupOf past before)
    (lasting : ∀ key, key.isControl = true → after.state.store.expiresAt key = none)
    (orderly : ∀ key, key.isControl = true → after.state.store.Orderly key (groupOf key))
    (grows : ∀ key, key.isControl = true → before.state.store.delivered key (groupOf key) ≤
      after.state.store.delivered key (groupOf key))
    (weights : ∀ place holder, weight tasks (past ++ [event]) after place holder ≤
        weight tasks past before place holder ∨
      holder = taker ∧ got place ∧ weight tasks (past ++ [event]) after place holder ≤
        weight tasks past before place holder + 1)
    (free : ∀ key entry, got (key, entry) →
      (∀ holder, weight tasks past before (key, entry) holder = 0) ∧
        entry < after.state.store.delivered key (groupOf key) ∧
        ∀ owner, after.state.store.owned key (groupOf key) entry = some owner →
          holderHome tasks taker = some owner.consumer)
    (owned : ∀ key entry owner, key.isControl = true →
      after.state.store.owned key (groupOf key) entry = some owner →
        before.state.store.owned key (groupOf key) entry = some owner ∨
          ∀ holder, weight tasks past before (key, entry) holder = 0)
    (looks : ∀ index key waiting, key.isControl = true →
      (memoOf tasks (past ++ [event]) index).pending = some (key, waiting) →
        (memoOf tasks past index).pending = some (key, waiting) ∧
        (memoOf tasks (past ++ [event]) index).offline = (memoOf tasks past index).offline ∧
        ∀ entry, entry < before.state.store.delivered key (groupOf key) →
          overtaken index key entry (past ++ [event]) = false →
            overtaken index key entry past = false ∧ ¬ got (key, entry) ∧
            ∀ owner, after.state.store.owned key (groupOf key) entry = some owner →
              before.state.store.owned key (groupOf key) entry = some owner) :
    Custody tasks groupOf (past ++ [event]) after := by
  refine ⟨lasting, orderly, ?_, ?_, ?_⟩
  · intro key entry control
    by_cases gained : got (key, entry)
    · have none := (free key entry gained).1
      refine Sole.gain none taker ?_ fun holder other => ?_
      · have empty := none taker
        rcases weights (key, entry) taker with less | ⟨_, _, less⟩
        · omega
        · omega
      · have empty := none holder
        rcases weights (key, entry) holder with less | ⟨same, _⟩
        · omega
        · exact absurd same other
    · refine (custody.sole key entry control).shrink fun holder => ?_
      rcases weights (key, entry) holder with less | ⟨_, got, _⟩
      · exact less
      · exact absurd got gained
  · intro key entry holder control has
    rcases weights (key, entry) holder with less | ⟨rfl, gained, _⟩
    · obtain ⟨early, owners⟩ := custody.held key entry holder control (by omega)
      refine ⟨Nat.lt_of_lt_of_le early (grows key control), fun owner owns => ?_⟩
      rcases owned key entry owner control owns with same | empty
      · exact owners owner same
      · have none := empty holder
        omega
    · exact (free key entry gained).2
  · intro index key waiting control consumes shown
    obtain ⟨showed, alike, each⟩ := looks index key waiting control shown
    have look := custody.looks index key waiting control consumes showed
    refine look.keep (grows key control) alike fun entry early unclaimed => ?_
    obtain ⟨earlier, kept, had⟩ := each entry early unclaimed
    refine ⟨earlier, fun owner owns => ⟨had owner owns, fun empty holder => ?_⟩⟩
    have none := empty holder
    rcases weights (key, entry) holder with less | ⟨_, gained, _⟩
    · omega
    · exact absurd gained kept

theorem Custody.moves {giver taker : ι ⊕ String} {moved : Key × Nat}
    (custody : Custody tasks groupOf past before)
    (stores : after.state.store = before.state.store) (differ : giver ≠ taker)
    (homes : holderHome tasks taker = holderHome tasks giver)
    (has : 0 < weight tasks past before moved giver)
    (gives : ∀ place, weight tasks (past ++ [event]) after place giver ≤
      weight tasks past before place giver - if moved = place then 1 else 0)
    (receives : ∀ place, weight tasks (past ++ [event]) after place taker ≤
      weight tasks past before place taker + if moved = place then 1 else 0)
    (others : ∀ place holder, holder ≠ giver → holder ≠ taker →
      weight tasks (past ++ [event]) after place holder = weight tasks past before place holder)
    (memos : ∀ index, (memoOf tasks (past ++ [event]) index).pending =
          (memoOf tasks past index).pending ∧
        (memoOf tasks (past ++ [event]) index).offline = (memoOf tasks past index).offline ∨
      (memoOf tasks (past ++ [event]) index).pending = none)
    (claims : ∀ index key entry, overtaken index key entry (past ++ [event]) = false →
      overtaken index key entry past = false) :
    Custody tasks groupOf (past ++ [event]) after := by
  have elsewhere {place : Key × Nat} (apart : place ≠ moved) (holder : ι ⊕ String) :
      weight tasks (past ++ [event]) after place holder ≤ weight tasks past before place holder := by
    by_cases isGiver : holder = giver
    · subst isGiver
      have less := gives place
      omega
    · by_cases isTaker : holder = taker
      · subst isTaker
        have less := receives place
        rw [if_neg (Ne.symm apart)] at less
        exact less
      · exact (others place holder isGiver isTaker).le
  refine ⟨?_, ?_, ?_, ?_, ?_⟩
  · intro key control
    rw [stores]
    exact custody.lasting key control
  · intro key control
    rw [stores]
    exact custody.orderly key control
  · intro key entry control
    have sole := custody.sole key entry control
    by_cases same : (key, entry) = moved
    · have given := gives (key, entry)
      have taken := receives (key, entry)
      have single := sole.one giver
      rw [if_pos same.symm] at given taken
      rw [← same] at has
      exact sole.move differ has (by omega) taken (others (key, entry))
    · exact sole.shrink (elsewhere same)
  · intro key entry holder control weighs
    rw [stores]
    by_cases same : (key, entry) = moved
    · have owns : 0 < weight tasks past before (key, entry) giver := same ▸ has
      by_cases isTaker : holder = taker
      · rw [isTaker, homes]
        exact custody.held key entry giver control owns
      · by_cases isGiver : holder = giver
        · rw [isGiver]
          exact custody.held key entry giver control owns
        · rw [others (key, entry) holder isGiver isTaker] at weighs
          exact custody.held key entry holder control weighs
    · have less := elsewhere same holder
      exact custody.held key entry holder control (by omega)
  · intro index key waiting control consumes shown
    rcases memos index with ⟨same, alike⟩ | reset
    · have look := custody.looks index key waiting control consumes (same ▸ shown)
      refine look.keep (by rw [stores]) alike fun entry _ unclaimed => ?_
      refine ⟨claims index key entry unclaimed, fun owner owns => ?_⟩
      rw [stores] at owns
      refine ⟨owns, fun empty holder => ?_⟩
      have apart : (key, entry) ≠ moved := by
        intro same
        have none := empty giver
        rw [same] at none
        omega
      have less := elsewhere apart holder
      have none := empty holder
      omega
    · rw [reset] at shown
      cases shown

end Steps

end Fleet

end ByFramework
