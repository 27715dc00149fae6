import ByFramework.Async.Logic

/-! What operations a task may issue, whatever they return. -/

namespace Async

namespace Task

variable {sig : Signature} {State ε σ α β Item : Type}

/-- `Prog.Uses` of a task, from every memory that satisfies `inv` to one that does. -/
def Uses (contract : Contract sig) (inv : σ → Prop := fun _ => True) (task : Task sig ε σ α) :
    Prop :=
  ∀ memory, inv memory → (task.start memory).Uses contract fun outcome => inv outcome.2

section Footprint

variable {contract : Contract sig} {inv : σ → Prop}

theorem uses_pure (value : α) : Uses contract inv (pure value : Task sig ε σ α) :=
  fun _ held => held

theorem uses_throw (error : ε) : Uses contract inv (throw error : Task sig ε σ α) :=
  fun _ held => held

theorem uses_throw_bind (error : ε) (next : α → Task sig ε σ β) :
    Uses contract inv (throw error >>= next) :=
  fun _ held => held

theorem uses_get : Uses contract inv (get : Task sig ε σ σ) := fun _ held => held

theorem uses_get_bind {next : σ → Task sig ε σ β}
    (rest : ∀ memory, inv memory → Uses contract inv (next memory)) :
    Uses contract inv (get >>= next) :=
  fun memory held => rest memory held memory held

theorem uses_modify {change : σ → σ} (kept : ∀ memory, inv memory → inv (change memory)) :
    Uses contract inv (modify change : Task sig ε σ PUnit) :=
  fun memory held => kept memory held

theorem uses_await {op : sig.Op} (permitted : contract.allowed op) :
    Uses contract inv (await op : Task sig ε σ (sig.Reply op)) :=
  fun _ held => ⟨permitted, fun _ _ => held⟩

theorem uses_await_bind {op : sig.Op} {next : sig.Reply op → Task sig ε σ β}
    (permitted : contract.allowed op)
    (rest : ∀ reply, contract.expected op reply → Uses contract inv (next reply)) :
    Uses contract inv (await op >>= next) :=
  fun memory held => ⟨permitted, fun reply expected => rest reply expected memory held⟩

theorem uses_await_bind_iff [Nonempty σ] {op : sig.Op} {next : sig.Reply op → Task sig ε σ β} :
    Uses contract (fun _ => True) (await op >>= next) ↔ contract.allowed op ∧
      ∀ reply, contract.expected op reply → Uses contract (fun _ => True) (next reply) := by
  constructor
  · intro uses
    obtain ⟨memory⟩ := ‹Nonempty σ›
    exact ⟨(uses memory trivial).1,
      fun reply expected later held => (uses later held).2 reply expected⟩
  · exact fun ⟨allowed, rest⟩ => uses_await_bind allowed rest

theorem uses_bind {task : Task sig ε σ α} {next : α → Task sig ε σ β}
    (first : Uses contract inv task) (rest : ∀ value, Uses contract inv (next value)) :
    Uses contract inv (task >>= next) := by
  intro memory held
  rw [start_bind]
  refine (first memory held).bind ?_
  rintro ⟨_ | value, after⟩ kept
  · exact kept
  · exact rest value after kept

theorem uses_bind_iff {task : Task sig ε σ α} {next : α → Task sig ε σ β}
    (rest : ∀ value, Uses contract (fun _ => True) (next value)) :
    Uses contract (fun _ => True) (task >>= next) ↔ Uses contract (fun _ => True) task := by
  constructor
  · intro uses memory held
    have whole := uses memory held
    rw [start_bind] at whole
    exact whole.of_bind
  · exact fun uses => uses_bind uses rest

theorem Uses.after {task : Task sig ε σ α} {next : α → Task sig ε σ β} {value : α}
    (uses : Uses contract inv (task >>= next))
    (yields : ∀ memory, (task.start memory).Yields contract (.ok value, memory)) :
    Uses contract inv (next value) := by
  intro memory held
  have whole := uses memory held
  rw [start_bind] at whole
  exact whole.after (yields memory)

theorem uses_tryCatch {task : Task sig ε σ α} {handler : ε → Task sig ε σ α}
    (first : Uses contract inv task) (rest : ∀ error, Uses contract inv (handler error)) :
    Uses contract inv (tryCatch task handler) := by
  intro memory held
  rw [start_tryCatch]
  refine (first memory held).bind ?_
  rintro ⟨error | value, after⟩ kept
  · exact rest error after kept
  · exact kept

theorem uses_failSoft {task : Task sig ε σ PUnit} (uses : Uses contract inv task) :
    Uses contract inv (failSoft task) :=
  uses_tryCatch uses fun _ => uses_pure _

theorem uses_when {condition : Prop} [Decidable condition] {task : Task sig ε σ PUnit}
    (uses : condition → Uses contract inv task) : Uses contract inv (when condition task) := by
  unfold when
  split
  · exact uses ‹_›
  · exact uses_pure _

theorem uses_attempt {task : Task sig ε σ α} (uses : Uses contract inv task) :
    Uses contract inv (attempt task) :=
  uses_tryCatch (uses_bind uses fun _ => uses_pure _) fun _ => uses_pure _

theorem uses_withFinally {task : Task sig ε σ α} {cleanup : Task sig ε σ PUnit}
    (first : Uses contract inv task) (last : Uses contract inv cleanup) :
    Uses contract inv (withFinally task cleanup) := by
  refine uses_bind (uses_tryCatch (uses_bind first fun value => uses_pure _)
    fun error => uses_pure _) fun outcome => ?_
  refine uses_bind last fun _ => ?_
  cases outcome with
  | ok value => exact uses_pure value
  | error error => exact uses_throw error

theorem uses_forEach {step : Item → Task sig ε σ PUnit} (items : List Item)
    (round : ∀ item ∈ items, Uses contract inv (step item)) :
    Uses contract inv (forEach items step) := by
  induction items with
  | nil => exact uses_pure _
  | cons item rest ih =>
      exact uses_bind (round item (by simp)) fun _ =>
        ih fun next inRest => round next (by simp [inRest])

theorem uses_mapEach {step : Item → Task sig ε σ α} (items : List Item)
    (round : ∀ item ∈ items, Uses contract inv (step item)) :
    Uses contract inv (mapEach items step) := by
  induction items with
  | nil => exact uses_pure []
  | cons item rest ih =>
      refine uses_bind (round item (by simp)) fun value => ?_
      exact uses_bind (ih fun next inRest => round next (by simp [inRest])) fun _ => uses_pure _

theorem uses_focus {τ : Type} {view : σ → τ} {update : σ → τ → σ} {inner : τ → Prop}
    {task : Task sig ε τ α} (uses : Uses contract inner task)
    (enters : ∀ memory, inv memory → inner (view memory))
    (leaves : ∀ memory last, inv memory → inner last → inv (update memory last)) :
    Uses contract inv (focus view update task) := by
  intro memory held
  rw [start_focus]
  exact (uses _ (enters memory held)).bind fun outcome kept => leaves memory outcome.2 held kept

theorem Uses.mono {narrow wide : Contract sig} {task : Task sig ε σ α}
    (uses : Uses narrow inv task) (widens : ∀ op, narrow.allowed op → wide.allowed op)
    (fewer : ∀ op reply, wide.expected op reply → narrow.expected op reply) :
    Uses wide inv task :=
  fun memory held => (uses memory held).mono widens fewer fun _ kept => kept

def Issues (contract : Contract sig) (task : Task sig ε σ α) (op : sig.Op) : Prop :=
  ∃ memory, (task.start memory).Issues contract op

theorem Uses.issues {narrow wide : Contract sig} {task : Task sig ε σ α} {op : sig.Op}
    (uses : Uses wide (fun _ => True) task) (issues : Issues narrow task op)
    (fewer : ∀ op reply, narrow.expected op reply → wide.expected op reply) : wide.allowed op := by
  obtain ⟨memory, reached⟩ := issues
  exact (uses memory trivial).issues reached fewer

theorem Issues.bind {task : Task sig ε σ α} {op : sig.Op} (issues : Issues contract task op)
    (next : α → Task sig ε σ β) : Issues contract (task >>= next) op := by
  obtain ⟨memory, reached⟩ := issues
  refine ⟨memory, ?_⟩
  rw [start_bind]
  exact reached.bind _

theorem Issues.after {task : Task sig ε σ α} {next : α → Task sig ε σ β} {value : α} {op : sig.Op}
    (yields : ∀ memory, (task.start memory).Yields contract (.ok value, memory))
    (issues : Issues contract (next value) op) : Issues contract (task >>= next) op := by
  obtain ⟨memory, reached⟩ := issues
  refine ⟨memory, ?_⟩
  rw [start_bind]
  exact .after (yields memory) reached

/-- A fact that the surroundings and the used operations preserve holds at the end. -/
theorem wp_of_uses {setting : Setting sig State} {task : Task sig ε σ α} {fact : State → Prop}
    {memory : σ} {state : State}
    (stable : ∀ before later, fact before → setting.rely before later → setting.inv later →
      fact later)
    (kept : ∀ before op, fact before → setting.inv before → contract.allowed op →
      setting.allow before op ∧ ∀ reply after, setting.serve before op reply after →
        setting.inv after → contract.expected op reply ∧ fact after)
    (uses : Uses contract inv task) (held : inv memory) (holds : fact state) :
    task.wp setting (fun _ after later => inv after ∧ fact later) memory state :=
  Prog.wp_of_uses stable kept (uses memory held) holds

end Footprint

end Task

end Async
