import ByFramework.Redis.Lock

/-!
Values that are kept by writing them again with a time to live: they are there until that time is
up, and once nobody writes them they are gone after it.
-/

namespace Redis

variable {K V : Type}

namespace Command

variable [DecidableEq K]

/-- The commands that put a value under a key or give it more time. -/
def renews (key : K) : Command K V → Bool
  | .set other _ _ _ | .expire other _ => other = key
  | _ => false

def lasts (key : K) (ttl : Nat) : Command K V → Bool
  | .set other _ _ time => other ≠ key || time.any fun seconds => seconds ≤ ttl
  | .expire other time => other ≠ key || decide (time ≤ ttl)
  | _ => true

def upholds (key : K) (ttl : Nat) : Command K V → Bool
  | .set other _ _ time => other ≠ key || time.any fun seconds => ttl ≤ seconds
  | .expire other time => other ≠ key || decide (ttl ≤ time)
  | .del other => other ≠ key
  | _ => true

end Command

namespace Store

def Lapses (store : Store K V) (key : K) (limit : Int) : Prop :=
  (store.text key).isSome = true →
    ∃ expiry, store.expiresAt key = some expiry ∧ store.clock ≤ expiry ∧ expiry ≤ limit

/-- What a key holds stays until the given instant, whatever the clock does. -/
def Stays (store : Store K V) (key : K) (limit : Int) : Prop :=
  (store.text key).isSome = true ∧ ∃ expiry, store.expiresAt key = some expiry ∧ limit ≤ expiry

variable {store : Store K V} {key : K} {limit : Int}

theorem Lapses.later {further : Int} (lapses : store.Lapses key limit) (later : limit ≤ further) :
    store.Lapses key further := by
  intro held
  obtain ⟨expiry, expires, ahead, within⟩ := lapses held
  exact ⟨expiry, expires, ahead, Int.le_trans within later⟩

theorem Lapses.gone (lapses : store.Lapses key limit) (late : limit < store.clock) :
    store.text key = none := by
  by_contra held
  obtain ⟨expiry, -, ahead, within⟩ := lapses (Option.isSome_iff_ne_none.mpr held)
  omega

theorem Lapses.advance (lapses : store.Lapses key limit) (now : Int) :
    (store.advance now).Lapses key limit := by
  intro held
  by_cases lapsed : (store.expiresAt key).any (decide <| · ≤ now) = true
  · simp [Store.advance, lapsed] at held
  · simp only [Store.advance, lapsed, Bool.false_eq_true, if_false] at held
    obtain ⟨expiry, expires, -, within⟩ := lapses held
    have ahead : ¬ expiry ≤ now := by simpa [expires] using lapsed
    refine ⟨expiry, ?_, Int.le_of_lt (Int.not_le.mp ahead), within⟩
    simp [Store.advance, expires, ahead]

theorem Stays.advance {now : Int} (stays : store.Stays key limit) (early : now < limit) :
    (store.advance now).Stays key limit := by
  obtain ⟨held, expiry, expires, within⟩ := stays
  have ahead : ¬ expiry ≤ now := by omega
  exact ⟨by simp [Store.advance, expires, ahead, held], expiry,
    by simp [Store.advance, expires, ahead], within⟩

variable [DecidableEq K] [Counting V]

theorem Stays.of_set {after : Store K V} {value : V} {ifAbsent : Bool} {ttl : Nat}
    (written : store.exec (.set key value ifAbsent (some ttl)) = (.ok true, after)) :
    after.Stays key (store.clock + 1000 * ttl) := by
  simp only [Store.exec] at written
  split at written
  · cases written
  · obtain rfl := congrArg Prod.snd written
    exact ⟨by simp, store.deadline ttl, by simp, Int.le_refl _⟩

theorem Stays.exec {command : Command K V} {ttl : Nat} (stays : store.Stays key limit)
    (upholds : command.upholds key ttl = true) (within : limit ≤ store.clock + 1000 * ttl) :
    (store.exec command).2.Stays key limit := by
  by_cases keeps : command.keeps (fun other => decide (other = key)) = true
  · obtain ⟨held, expires⟩ := stays
    refine ⟨?_, ?_⟩
    · rwa [text_exec store keeps (decide_eq_true rfl)]
    · rwa [expiresAt_exec store keeps (decide_eq_true rfl)]
  · cases command with
    | set other value ifAbsent time =>
        obtain rfl : other = key := by simpa [Command.keeps] using keeps
        cases time with
        | none => simp [Command.upholds] at upholds
        | some seconds =>
            have longer : ttl ≤ seconds := by simpa [Command.upholds] using upholds
            simp only [Store.exec]
            split
            · exact stays
            · refine ⟨by simp, store.deadline seconds, by simp, ?_⟩
              simp only [deadline]
              omega
    | expire other time =>
        obtain rfl : other = key := by simpa [Command.keeps] using keeps
        have longer : ttl ≤ time := by simpa [Command.upholds] using upholds
        simp only [Store.exec]
        split
        · refine ⟨stays.1, store.deadline time, by simp, ?_⟩
          simp only [deadline]
          omega
        · exact stays
    | del other =>
        obtain rfl : other = key := by simpa [Command.keeps] using keeps
        simp [Command.upholds] at upholds
    | _ => exact absurd rfl keeps

theorem Lapses.exec {command : Command K V} (lapses : store.Lapses key limit)
    (unrenewed : command.renews key = false) : (store.exec command).2.Lapses key limit := by
  by_cases deletes : command = .del key
  · subst deletes
    intro held
    simp [Store.exec, drop] at held
  · have keeps : command.keeps (fun other => decide (other = key)) = true := by
      cases command with
      | set other _ _ _ | expire other _ => simpa [Command.renews, Command.keeps] using unrenewed
      | del other => simpa [Command.keeps] using deletes
      | _ => rfl
    intro held
    rw [text_exec store keeps (decide_eq_true rfl)] at held
    rw [expiresAt_exec store keeps (decide_eq_true rfl), clock_exec]
    exact lapses held

theorem Lapses.renewed {command : Command K V} {ttl : Nat}
    (lapses : store.Lapses key (store.clock + 1000 * ttl)) (lasts : command.lasts key ttl = true) :
    (store.exec command).2.Lapses key (store.clock + 1000 * ttl) := by
  by_cases renews : command.renews key = true
  · cases command with
    | set other value ifAbsent time =>
        obtain rfl : other = key := of_decide_eq_true renews
        cases time with
        | none => simp [Command.lasts] at lasts
        | some seconds =>
            have within : seconds ≤ ttl := by simpa [Command.lasts] using lasts
            simp only [Store.exec]
            split
            · exact lapses
            · intro _
              have ahead : store.clock ≤ store.deadline seconds := by
                unfold deadline
                omega
              have soon : store.deadline seconds ≤ store.clock + 1000 * ttl := by
                unfold deadline
                omega
              exact ⟨store.deadline seconds, by simp, ahead, soon⟩
    | expire other time =>
        obtain rfl : other = key := of_decide_eq_true renews
        have within : time ≤ ttl := by simpa [Command.lasts] using lasts
        simp only [Store.exec]
        split
        · intro _
          have ahead : store.clock ≤ store.deadline time := by
            unfold deadline
            omega
          have soon : store.deadline time ≤ store.clock + 1000 * ttl := by
            unfold deadline
            omega
          exact ⟨store.deadline time, by simp, ahead, soon⟩
        · exact lapses
    | _ => cases renews
  · exact lapses.exec (Bool.not_eq_true _ ▸ renews)

end Store

end Redis
