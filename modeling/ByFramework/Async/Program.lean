import Mathlib.Logic.Function.Basic

/-!
Programs that await one operation at a time, and tasks: programs that keep a local
memory and may fail. What an operation does is left to whoever answers it.
-/

namespace Async

/-- The operations a program can await, with the type of each reply. -/
structure Signature where
  Op : Type
  Reply : Op → Type

inductive Prog (sig : Signature) (α : Type) where
  | done (value : α)
  | call (op : sig.Op) (resume : sig.Reply op → Prog sig α)

namespace Prog

variable {sig : Signature} {α β γ : Type}

def bind : Prog sig α → (α → Prog sig β) → Prog sig β
  | .done value, next => next value
  | .call op resume, next => .call op fun reply => (resume reply).bind next

instance : Monad (Prog sig) where
  pure := .done
  bind := bind

@[simp] theorem pure_eq (value : α) : (pure value : Prog sig α) = .done value := rfl

@[simp] theorem done_bind (value : α) (next : α → Prog sig β) :
    (Prog.done value >>= next) = next value := rfl

@[simp] theorem call_bind (op : sig.Op) (resume : sig.Reply op → Prog sig α)
    (next : α → Prog sig β) :
    (Prog.call op resume >>= next) = .call op fun reply => resume reply >>= next := rfl

theorem bind_done (program : Prog sig α) : (program >>= Prog.done) = program := by
  induction program with
  | done value => rfl
  | call op resume ih =>
      rw [call_bind]
      congr 1
      funext reply
      exact ih reply

theorem bind_assoc (program : Prog sig α) (first : α → Prog sig β) (second : β → Prog sig γ) :
    (program >>= first) >>= second = program >>= fun value => first value >>= second := by
  induction program with
  | done value => rfl
  | call op resume ih =>
      simp only [call_bind]
      congr 1
      funext reply
      exact ih reply

instance : LawfulMonad (Prog sig) :=
  LawfulMonad.mk' (Prog sig) bind_done (fun _ _ => rfl) bind_assoc

end Prog

abbrev Task (sig : Signature) (ε σ : Type) := ExceptT ε (StateT σ (Prog sig))

namespace Task

variable {sig : Signature} {ε σ α β : Type}

/-- The program a task is, started with a given memory. -/
def start (task : Task sig ε σ α) (memory : σ) : Prog sig (Except ε α × σ) :=
  (ExceptT.run task).run memory

@[simp] theorem start_pure (value : α) (memory : σ) :
    start (pure value : Task sig ε σ α) memory = .done (.ok value, memory) := rfl

@[simp] theorem start_throw (error : ε) (memory : σ) :
    start (throw error : Task sig ε σ α) memory = .done (.error error, memory) := rfl

@[simp] theorem start_get (memory : σ) :
    start (get : Task sig ε σ σ) memory = .done (.ok memory, memory) := rfl

@[simp] theorem start_set (next memory : σ) :
    start (set next : Task sig ε σ PUnit) memory = .done (.ok ⟨⟩, next) := rfl

@[simp] theorem start_modify (change : σ → σ) (memory : σ) :
    start (modify change : Task sig ε σ PUnit) memory = .done (.ok ⟨⟩, change memory) := rfl

def await (op : sig.Op) : Task sig ε σ (sig.Reply op) :=
  ExceptT.mk fun memory => .call op fun reply => .done (.ok reply, memory)

@[simp] theorem start_await (op : sig.Op) (memory : σ) :
    start (await op : Task sig ε σ (sig.Reply op)) memory =
      .call op fun reply => .done (.ok reply, memory) := rfl

theorem start_bind (task : Task sig ε σ α) (next : α → Task sig ε σ β) (memory : σ) :
    start (task >>= next) memory = start task memory >>= fun outcome =>
      match outcome.1 with
      | .ok value => start (next value) outcome.2
      | .error error => .done (.error error, outcome.2) := by
  simp only [start, ExceptT.run_bind, StateT.run_bind]
  congr 1
  funext outcome
  rcases outcome with ⟨_ | _, _⟩ <;> rfl

theorem start_tryCatch (task : Task sig ε σ α) (handler : ε → Task sig ε σ α) (memory : σ) :
    start (tryCatch task handler) memory = start task memory >>= fun outcome =>
      match outcome.1 with
      | .ok value => .done (.ok value, outcome.2)
      | .error error => start (handler error) outcome.2 := by
  change start task memory >>= _ = _
  congr 1
  funext outcome
  rcases outcome with ⟨_ | _, _⟩ <;> rfl

/-- Run `step` on each item in order, stopping at the first exception. -/
def forEach {Item : Type} : List Item → (Item → Task sig ε σ PUnit) → Task sig ε σ PUnit
  | [], _ => pure ⟨⟩
  | item :: rest, step => do
      step item
      forEach rest step

/-- The results of `step` on each item, in order. -/
def mapEach {Item : Type} : List Item → (Item → Task sig ε σ α) → Task sig ε σ (List α)
  | [], _ => pure []
  | item :: rest, step => do
      let value ← step item
      let values ← mapEach rest step
      pure (value :: values)

/-- The outcome of a task as a value, as a `try` around it sees it. -/
def attempt (task : Task sig ε σ α) : Task sig ε σ (Except ε α) :=
  tryCatch (do pure (Except.ok (ε := ε) (← task))) fun error => pure (.error error)

/-- Run `task`, then `cleanup` whatever its outcome, as `try ... finally` does. -/
def withFinally (task : Task sig ε σ α) (cleanup : Task sig ε σ PUnit) : Task sig ε σ α := do
  let outcome ← tryCatch (do pure (Except.ok (ε := ε) (← task))) fun error => pure (.error error)
  cleanup
  match outcome with
  | .ok value => pure value
  | .error error => throw error

/-- Run a task on the part of the memory that `view` shows and `update` writes back. -/
def focus {τ : Type} (view : σ → τ) (update : σ → τ → σ) (task : Task sig ε τ α) :
    Task sig ε σ α :=
  ExceptT.mk fun memory => start task (view memory) >>= fun outcome =>
    .done (outcome.1, update memory outcome.2)

theorem start_focus {τ : Type} (view : σ → τ) (update : σ → τ → σ) (task : Task sig ε τ α)
    (memory : σ) : start (focus view update task) memory =
      start task (view memory) >>= fun outcome => .done (outcome.1, update memory outcome.2) := rfl

/-- Run `task` where `condition` holds, and nothing elsewhere. -/
def when (condition : Prop) [Decidable condition] (task : Task sig ε σ PUnit) :
    Task sig ε σ PUnit :=
  if condition then task else pure ⟨⟩

/-- Run `task` and swallow what it throws, as an empty `catch` does. -/
def failSoft (task : Task sig ε σ PUnit) : Task sig ε σ PUnit := tryCatch task fun _ => pure ⟨⟩

end Task

end Async
