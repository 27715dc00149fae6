import ByFramework.Async.Pool

/-! An item that is held by one holder at a time, whoever holds it. -/

namespace Async

def Config.running {sig : Signature} {State ι ρ : Type} (config : Config sig State ι ρ)
    (index : ι) : Bool :=
  match config.task index with
  | some (.call _ _) => true
  | _ => false

section Running

variable {sig : Signature} {State ι ρ : Type} {config : Config sig State ι ρ} {index : ι}

theorem Config.running_of_call {op : sig.Op} {resume : sig.Reply op → Prog sig ρ}
    (found : config.task index = some (.call op resume)) : config.running index = true := by
  simp [Config.running, found]

theorem Config.not_running (idle : config.task index = none) : config.running index = false := by
  simp [Config.running, idle]

end Running

structure Sole {Holder : Type} (weight : Holder → Nat) : Prop where
  one : ∀ holder, weight holder ≤ 1
  apart : ∀ first second, first ≠ second → weight first = 0 ∨ weight second = 0

namespace Sole

variable {Holder : Type} {before after : Holder → Nat}

theorem shrink (sole : Sole before) (less : ∀ holder, after holder ≤ before holder) :
    Sole after where
  one holder := Nat.le_trans (less holder) (sole.one holder)
  apart first second differ := by
    have left := less first
    have right := less second
    rcases sole.apart first second differ with none | none
    · exact .inl (by omega)
    · exact .inr (by omega)

theorem gain (free : ∀ holder, before holder = 0) (taker : Holder)
    (taken : after taker ≤ 1) (others : ∀ holder, holder ≠ taker → after holder = before holder) :
    Sole after where
  one holder := by
    by_cases same : holder = taker
    · exact same ▸ taken
    · rw [others holder same, free holder]
      exact Nat.zero_le 1
  apart first second differ := by
    by_cases isFirst : first = taker
    · right
      rw [others second (fun isSecond => differ (isFirst.trans isSecond.symm)), free second]
    · left
      rw [others first isFirst, free first]

theorem move (sole : Sole before) {giver taker : Holder} (differ : giver ≠ taker)
    (holds : 0 < before giver) (given : after giver + 1 = before giver)
    (taken : after taker ≤ before taker + 1)
    (others : ∀ holder, holder ≠ giver → holder ≠ taker → after holder = before holder) :
    Sole after := by
  have single := sole.one giver
  have nobody (holder : Holder) (other : holder ≠ giver) : before holder = 0 := by
    rcases sole.apart holder giver other with none | none
    · exact none
    · omega
  have gives : after giver = 0 := by omega
  refine ⟨fun holder => ?_, fun first second apart => ?_⟩
  · by_cases isGiver : holder = giver
    · rw [isGiver, gives]
      exact Nat.zero_le 1
    · by_cases isTaker : holder = taker
      · have none := nobody taker differ.symm
        rw [isTaker]
        omega
      · rw [others holder isGiver isTaker, nobody holder isGiver]
        exact Nat.zero_le 1
  · have free (holder : Holder) (other : holder ≠ taker) : after holder = 0 := by
      by_cases isGiver : holder = giver
      · rw [isGiver, gives]
      · rw [others holder isGiver other, nobody holder isGiver]
    by_cases isTaker : first = taker
    · exact .inr (free second fun isSecond => apart (isTaker.trans isSecond.symm))
    · exact .inl (free first isTaker)

end Sole

end Async
