import ByFramework.Async.Program

/-!
Weakest preconditions for programs that run beside others. A setting says what the others
may change between two operations, which operations may be issued, and what each one does.
-/

namespace Async

/-- The surroundings of a program: `rely` is what may happen while it waits for its turn. -/
structure Setting (sig : Signature) (State : Type) where
  inv : State → Prop
  rely : State → State → Prop
  allow : State → sig.Op → Prop
  serve : State → (op : sig.Op) → sig.Reply op → State → Prop
  rely_refl : ∀ state, rely state state
  rely_trans : ∀ {first second third}, rely first second → rely second third → rely first third

/-- Surroundings in which nothing else moves; `allow` may narrow what is issued there. -/
def Setting.alone {sig : Signature} {State : Type}
    (serve : State → (op : sig.Op) → sig.Reply op → State → Prop)
    (allow : State → sig.Op → Prop := fun _ _ => True) : Setting sig State where
  inv _ := True
  rely := Eq
  allow := allow
  serve := serve
  rely_refl _ := rfl
  rely_trans := Eq.trans

/-- Which operations a program may issue, as long as it meets no reply but the expected. -/
structure Contract (sig : Signature) where
  allowed : sig.Op → Prop
  expected : (op : sig.Op) → sig.Reply op → Prop

def Contract.only {sig : Signature} (allowed : sig.Op → Prop) : Contract sig where
  allowed := allowed
  expected _ _ := True

namespace Prog

variable {sig : Signature} {State α β : Type}

/-- Every operation issued from `state` on is allowed, and every result satisfies `post`. -/
def wp (setting : Setting sig State) : Prog sig α → (α → State → Prop) → State → Prop
  | .done value, post, state =>
      ∀ later, setting.rely state later → setting.inv later → post value later
  | .call op resume, post, state =>
      ∀ later, setting.rely state later → setting.inv later →
        setting.allow later op ∧
        ∀ reply after, setting.serve later op reply after → setting.inv after →
          wp setting (resume reply) post after

theorem wp_of_rely {setting : Setting sig State} {program : Prog sig α}
    {post : α → State → Prop} {state later : State} (holds : program.wp setting post state)
    (step : setting.rely state later) : program.wp setting post later := by
  cases program with
  | done value => exact fun last further => holds last (setting.rely_trans step further)
  | call op resume => exact fun last further => holds last (setting.rely_trans step further)

theorem wp_mono {setting : Setting sig State} {program : Prog sig α}
    {weak strong : α → State → Prop} {state : State}
    (holds : program.wp setting strong state)
    (weaker : ∀ value later, setting.inv later → strong value later → weak value later) :
    program.wp setting weak state := by
  induction program generalizing state with
  | done value => exact fun later step valid => weaker value later valid (holds later step valid)
  | call op resume ih =>
      intro later step valid
      obtain ⟨allowed, continues⟩ := holds later step valid
      exact ⟨allowed, fun reply after served kept => ih reply (continues reply after served kept)⟩

/-- A result still satisfies `post` after whatever happens next. -/
theorem wp_stable {setting : Setting sig State} {program : Prog sig α}
    {post : α → State → Prop} {state : State} (holds : program.wp setting post state) :
    program.wp setting (fun value later => ∀ last, setting.rely later last → setting.inv last →
      post value last) state := by
  induction program generalizing state with
  | done value =>
      exact fun later step _ last further => holds last (setting.rely_trans step further)
  | call op resume ih =>
      intro later step valid
      obtain ⟨allowed, continues⟩ := holds later step valid
      exact ⟨allowed, fun reply after served kept => ih reply (continues reply after served kept)⟩

theorem wp_bind {setting : Setting sig State} {program : Prog sig α} {next : α → Prog sig β}
    {post : β → State → Prop} {state : State}
    (holds : program.wp setting (fun value later => (next value).wp setting post later) state)
    (valid : setting.inv state) : (program >>= next).wp setting post state := by
  induction program generalizing state with
  | done value => exact holds state (setting.rely_refl state) valid
  | call op resume ih =>
      intro later step kept
      obtain ⟨allowed, continues⟩ := holds later step kept
      exact ⟨allowed, fun reply after served keptAfter =>
        ih reply (continues reply after served keptAfter) keptAfter⟩

theorem wp_any {serve : State → (op : sig.Op) → sig.Reply op → State → Prop}
    {program : Prog sig α} {post : α → State → Prop} {state : State}
    (holds : ∀ value later, post value later) : program.wp (.alone serve) post state := by
  induction program generalizing state with
  | done value => exact fun later _ _ => holds value later
  | call op resume ih => exact fun _ _ _ => ⟨trivial, fun reply _ _ _ => ih reply⟩

/-- Run a program to its end, each operation answered by `answer`. -/
def run (answer : State → (op : sig.Op) → sig.Reply op × State) : Prog sig α → State → α × State
  | .done value, state => (value, state)
  | .call op resume, state => run answer (resume (answer state op).1) (answer state op).2

theorem run_bind (answer : State → (op : sig.Op) → sig.Reply op × State) (program : Prog sig α)
    (next : α → Prog sig β) (state : State) :
    (program >>= next).run answer state =
      (next (program.run answer state).1).run answer (program.run answer state).2 := by
  induction program generalizing state with
  | done value => rfl
  | call op resume ih => exact ih _ _

theorem wp_run {serve : State → (op : sig.Op) → sig.Reply op → State → Prop}
    {answer : State → (op : sig.Op) → sig.Reply op × State} {program : Prog sig α}
    {post : α → State → Prop} {state : State} (holds : program.wp (.alone serve) post state)
    (served : ∀ state op, serve state op (answer state op).1 (answer state op).2) :
    post (program.run answer state).1 (program.run answer state).2 := by
  induction program generalizing state with
  | done value => exact holds state rfl trivial
  | call op resume ih =>
      exact ih _ ((holds state rfl trivial).2 _ _ (served state op) trivial)

/-- A program ends with a value when its operations are answered one after the other. -/
inductive Ends (serve : State → (op : sig.Op) → sig.Reply op → State → Prop) :
    Prog sig α → State → α → State → Prop where
  | done {value : α} {state : State} : Ends serve (.done value) state value state
  | call {op : sig.Op} {resume : sig.Reply op → Prog sig α} {reply : sig.Reply op} {value : α}
      {before after last : State} (served : serve before op reply after)
      (rest : Ends serve (resume reply) after value last) :
      Ends serve (.call op resume) before value last

theorem wp_ends {serve : State → (op : sig.Op) → sig.Reply op → State → Prop}
    {allow : State → sig.Op → Prop} {program : Prog sig α} {post : α → State → Prop}
    {before after : State} {value : α} (ends : Ends serve program before value after)
    (holds : program.wp (.alone serve allow) post before) : post value after := by
  induction ends with
  | done => exact holds _ rfl trivial
  | call served _ ih => exact ih ((holds _ rfl trivial).2 _ _ served trivial)

theorem ends_run {serve : State → (op : sig.Op) → sig.Reply op → State → Prop}
    {answer : State → (op : sig.Op) → sig.Reply op × State}
    (served : ∀ state op, serve state op (answer state op).1 (answer state op).2)
    (program : Prog sig α) (state : State) :
    Ends serve program state (program.run answer state).1 (program.run answer state).2 := by
  induction program generalizing state with
  | done value => exact .done
  | call op resume ih => exact .call (served state op) (ih _ _)

/-- A program comes to issue an operation when those before it are answered one by one. -/
inductive Reaches (serve : State → (op : sig.Op) → sig.Reply op → State → Prop) :
    Prog sig α → State → sig.Op → State → Prop where
  | here {op : sig.Op} {resume : sig.Reply op → Prog sig α} {state : State} :
      Reaches serve (.call op resume) state op state
  | later {op found : sig.Op} {resume : sig.Reply op → Prog sig α} {reply : sig.Reply op}
      {before after last : State} (served : serve before op reply after)
      (rest : Reaches serve (resume reply) after found last) :
      Reaches serve (.call op resume) before found last

theorem wp_reaches {serve : State → (op : sig.Op) → sig.Reply op → State → Prop}
    {allow : State → sig.Op → Prop} {program : Prog sig α} {post : α → State → Prop}
    {state last : State} {op : sig.Op} (reaches : Reaches serve program state op last)
    (holds : program.wp (.alone serve allow) post state) : allow last op := by
  induction reaches with
  | here => exact (holds _ rfl trivial).1
  | later served _ ih => exact ih ((holds _ rfl trivial).2 _ _ served trivial)

theorem Reaches.bind {serve : State → (op : sig.Op) → sig.Reply op → State → Prop}
    {program : Prog sig α} {state last : State} {op : sig.Op}
    (reaches : Reaches serve program state op last) (next : α → Prog sig β) :
    Reaches serve (program >>= next) state op last := by
  induction reaches with
  | here => exact .here
  | later served _ ih => exact .later served ih

theorem Reaches.after {serve : State → (op : sig.Op) → sig.Reply op → State → Prop}
    {program : Prog sig α} {next : α → Prog sig β} {value : α} {state middle last : State}
    {op : sig.Op} (ends : Ends serve program state value middle)
    (reaches : Reaches serve (next value) middle op last) :
    Reaches serve (program >>= next) state op last := by
  induction ends with
  | done => exact reaches
  | call served _ ih => exact .later served (ih reaches)

theorem Ends.bind {serve : State → (op : sig.Op) → sig.Reply op → State → Prop}
    {program : Prog sig α} {next : α → Prog sig β} {value : α} {result : β}
    {state middle last : State} (first : Ends serve program state value middle)
    (rest : Ends serve (next value) middle result last) :
    Ends serve (program >>= next) state result last := by
  induction first with
  | done => exact rest
  | call served _ ih => exact .call served (ih rest)

theorem Ends.of_bind {serve : State → (op : sig.Op) → sig.Reply op → State → Prop}
    {program : Prog sig α} {next : α → Prog sig β} {result : β} {state last : State}
    (ends : Ends serve (program >>= next) state result last) :
    ∃ value middle, Ends serve program state value middle ∧
      Ends serve (next value) middle result last := by
  induction program generalizing state with
  | done value => exact ⟨value, state, .done, ends⟩
  | call op resume ih =>
      cases ends with
      | call served rest =>
          obtain ⟨value, middle, first, second⟩ := ih _ rest
          exact ⟨value, middle, .call served first, second⟩

theorem ends_bind_left {serve : State → (op : sig.Op) → sig.Reply op → State → Prop}
    {program other : Prog sig α} {next : α → Prog sig β} {result : β} {state last : State}
    (alike : ∀ value middle, Ends serve program state value middle ↔
      Ends serve other state value middle) :
    Ends serve (program >>= next) state result last ↔
      Ends serve (other >>= next) state result last := by
  constructor
  · intro ends
    obtain ⟨value, middle, first, second⟩ := ends.of_bind
    exact ((alike value middle).mp first).bind second
  · intro ends
    obtain ⟨value, middle, first, second⟩ := ends.of_bind
    exact ((alike value middle).mpr first).bind second

theorem ends_bind_right {serve : State → (op : sig.Op) → sig.Reply op → State → Prop}
    {allow : State → sig.Op → Prop} {program : Prog sig α} {next other : α → Prog sig β}
    {post : α → State → Prop} {result : β} {state last : State}
    (holds : program.wp (.alone serve allow) post state)
    (alike : ∀ value middle, post value middle → (Ends serve (next value) middle result last ↔
      Ends serve (other value) middle result last)) :
    Ends serve (program >>= next) state result last ↔
      Ends serve (program >>= other) state result last := by
  constructor
  · intro ends
    obtain ⟨value, middle, first, second⟩ := ends.of_bind
    exact first.bind ((alike value middle (wp_ends first holds)).mp second)
  · intro ends
    obtain ⟨value, middle, first, second⟩ := ends.of_bind
    exact first.bind ((alike value middle (wp_ends first holds)).mpr second)

theorem wp_ending {serve : State → (op : sig.Op) → sig.Reply op → State → Prop}
    {allow : State → sig.Op → Prop} {program : Prog sig α} {post : α → State → Prop}
    {state : State} (holds : program.wp (.alone serve allow) post state) :
    program.wp (.alone serve allow)
      (fun value later => post value later ∧ Ends serve program state value later) state := by
  induction program generalizing state with
  | done value =>
      rintro later rfl -
      exact ⟨holds _ rfl trivial, .done⟩
  | call op resume ih =>
      rintro later rfl -
      obtain ⟨allowed, continues⟩ := holds _ rfl trivial
      refine ⟨allowed, fun reply after served kept => ?_⟩
      exact wp_mono (ih reply (continues reply after served kept))
        fun value last _ ended => ⟨ended.1, .call served ended.2⟩

/-- Every operation the program can issue is allowed, up to the first unexpected reply, and
what it returns satisfies `post`. -/
def Uses (contract : Contract sig) (post : α → Prop := fun _ => True) : Prog sig α → Prop
  | .done value => post value
  | .call op resume => contract.allowed op ∧
      ∀ reply, contract.expected op reply → (resume reply).Uses contract post

theorem Uses.bind {contract : Contract sig} {program : Prog sig α} {next : α → Prog sig β}
    {middle : α → Prop} {post : β → Prop} (first : program.Uses contract middle)
    (rest : ∀ value, middle value → (next value).Uses contract post) :
    (program >>= next).Uses contract post := by
  induction program with
  | done value => exact rest value first
  | call op resume ih =>
      exact ⟨first.1, fun reply expected => ih reply (first.2 reply expected)⟩

theorem Uses.mono {narrow wide : Contract sig} {program : Prog sig α} {strong weak : α → Prop}
    (uses : program.Uses narrow strong) (widens : ∀ op, narrow.allowed op → wide.allowed op)
    (fewer : ∀ op reply, wide.expected op reply → narrow.expected op reply)
    (weaker : ∀ value, strong value → weak value) : program.Uses wide weak := by
  induction program with
  | done value => exact weaker value uses
  | call op resume ih =>
      exact ⟨widens op uses.1, fun reply expected =>
        ih reply (uses.2 reply (fewer op reply expected))⟩

theorem Uses.of_bind {contract : Contract sig} {program : Prog sig α} {next : α → Prog sig β}
    {post : β → Prop} (uses : (program >>= next).Uses contract post) :
    program.Uses contract fun _ => True := by
  induction program with
  | done value => trivial
  | call op resume ih => exact ⟨uses.1, fun reply expected => ih reply (uses.2 reply expected)⟩

theorem bind_congr_of_uses {program : Prog sig α} {next other : α → Prog sig β}
    {post : α → Prop} (uses : program.Uses (.only fun _ => True) post)
    (same : ∀ value, post value → next value = other value) :
    (program >>= next) = (program >>= other) := by
  induction program with
  | done value => exact same value uses
  | call op resume ih =>
      rw [call_bind, call_bind]
      congr 1
      funext reply
      exact ih reply (uses.2 reply trivial)

theorem wp_allowing {wide narrow : State → (op : sig.Op) → sig.Reply op → State → Prop}
    {allow : State → sig.Op → Prop} {permitted : sig.Op → Prop} {program : Prog sig α}
    {post : α → State → Prop} {state : State} (holds : program.wp (.alone wide) post state)
    (uses : program.Uses (.only permitted))
    (narrows : ∀ state op reply after, narrow state op reply after → wide state op reply after)
    (allows : ∀ state op, permitted op → allow state op) :
    program.wp (.alone narrow allow) post state := by
  induction program generalizing state with
  | done value => exact holds
  | call op resume ih =>
      intro later same _
      obtain ⟨-, continues⟩ := holds later same trivial
      refine ⟨allows later op uses.1, fun reply after served _ => ?_⟩
      exact ih reply (continues reply after (narrows _ _ _ _ served) trivial)
        (uses.2 reply trivial)

/-- A program may end with a value though only expected replies come. -/
inductive Yields (contract : Contract sig) : Prog sig α → α → Prop where
  | done {value : α} : Yields contract (.done value) value
  | call {op : sig.Op} {resume : sig.Reply op → Prog sig α} {reply : sig.Reply op} {value : α}
      (expected : contract.expected op reply) (rest : Yields contract (resume reply) value) :
      Yields contract (.call op resume) value

theorem Uses.after {contract : Contract sig} {program : Prog sig α} {next : α → Prog sig β}
    {post : β → Prop} {value : α} (uses : (program >>= next).Uses contract post)
    (yields : program.Yields contract value) : (next value).Uses contract post := by
  induction yields with
  | done => exact uses
  | call expected _ ih => exact ih (uses.2 _ expected)

/-- A program comes to issue an operation though only expected replies come. -/
inductive Issues (contract : Contract sig) : Prog sig α → sig.Op → Prop where
  | here {op : sig.Op} {resume : sig.Reply op → Prog sig α} : Issues contract (.call op resume) op
  | later {op found : sig.Op} {resume : sig.Reply op → Prog sig α} {reply : sig.Reply op}
      (expected : contract.expected op reply) (rest : Issues contract (resume reply) found) :
      Issues contract (.call op resume) found

theorem Uses.issues {narrow wide : Contract sig} {program : Prog sig α} {post : α → Prop}
    {op : sig.Op} (uses : program.Uses wide post) (issues : program.Issues narrow op)
    (fewer : ∀ op reply, narrow.expected op reply → wide.expected op reply) : wide.allowed op := by
  induction issues with
  | here => exact uses.1
  | later expected _ ih => exact ih (uses.2 _ (fewer _ _ expected))

theorem Issues.bind {contract : Contract sig} {program : Prog sig α} {op : sig.Op}
    (issues : program.Issues contract op) (next : α → Prog sig β) :
    (program >>= next).Issues contract op := by
  induction issues with
  | here => exact .here
  | later expected _ ih => exact .later expected ih

theorem Issues.after {contract : Contract sig} {program : Prog sig α} {next : α → Prog sig β}
    {op : sig.Op} {value : α} (yields : program.Yields contract value)
    (issues : (next value).Issues contract op) : (program >>= next).Issues contract op := by
  induction yields with
  | done => exact issues
  | call expected _ ih => exact .later expected (ih issues)

theorem wp_of_uses {setting : Setting sig State} {contract : Contract sig}
    {fact : State → Prop} {post : α → Prop} {program : Prog sig α} {state : State}
    (stable : ∀ before later, fact before → setting.rely before later → setting.inv later →
      fact later)
    (kept : ∀ before op, fact before → setting.inv before → contract.allowed op →
      setting.allow before op ∧ ∀ reply after, setting.serve before op reply after →
        setting.inv after → contract.expected op reply ∧ fact after)
    (uses : program.Uses contract post) (holds : fact state) :
    program.wp setting (fun value later => post value ∧ fact later) state := by
  induction program generalizing state with
  | done value => exact fun later step valid => ⟨uses, stable state later holds step valid⟩
  | call op resume ih =>
      intro later step valid
      have current := stable state later holds step valid
      obtain ⟨permitted, served⟩ := kept later op current valid uses.1
      refine ⟨permitted, fun reply after answer keptAfter => ?_⟩
      obtain ⟨expected, still⟩ := served reply after answer keptAfter
      exact ih reply (uses.2 reply expected) still

end Prog

namespace Task

variable {sig : Signature} {State ε σ α β Item : Type}

theorem run_bind_ok {answer : State → (op : sig.Op) → sig.Reply op × State}
    {task : Task sig ε σ α} {next : α → Task sig ε σ β} {memory left : σ} {state later : State}
    {value : α} (first : (start task memory).run answer state = ((.ok value, left), later)) :
    (start (task >>= next) memory).run answer state = (start (next value) left).run answer later := by
  rw [start_bind, Prog.run_bind, first]

/-- `Prog.wp` of a task started with a given memory. -/
def wp (setting : Setting sig State) (task : Task sig ε σ α)
    (post : Except ε α → σ → State → Prop) (memory : σ) (state : State) : Prop :=
  (task.start memory).wp setting (fun outcome later => post outcome.1 outcome.2 later) state

section Rules

variable {setting : Setting sig State} {post : Except ε α → σ → State → Prop}
  {memory : σ} {state : State}

theorem wp_of_rely {task : Task sig ε σ α} {later : State}
    (holds : task.wp setting post memory state) (step : setting.rely state later) :
    task.wp setting post memory later :=
  Prog.wp_of_rely holds step

theorem wp_ends {serve : State → (op : sig.Op) → sig.Reply op → State → Prop}
    {allow : State → sig.Op → Prop} {task : Task sig ε σ α} {before after : State}
    {outcome : Except ε α × σ} (ends : Prog.Ends serve (task.start memory) before outcome after)
    (holds : task.wp (.alone serve allow) post memory before) : post outcome.1 outcome.2 after := by
  have ended := Prog.wp_ends ends holds
  exact ended

theorem wp_mono {task : Task sig ε σ α} {strong : Except ε α → σ → State → Prop}
    (holds : task.wp setting strong memory state)
    (weaker : ∀ outcome memory later, setting.inv later → strong outcome memory later →
      post outcome memory later) : task.wp setting post memory state :=
  Prog.wp_mono holds fun outcome later => weaker outcome.1 outcome.2 later

theorem wp_stable {task : Task sig ε σ α} (holds : task.wp setting post memory state) :
    task.wp setting (fun outcome memory later => ∀ last, setting.rely later last →
      setting.inv last → post outcome memory last) memory state :=
  Prog.wp_stable holds

theorem wp_pure {value : α}
    (holds : ∀ later, setting.rely state later → setting.inv later →
      post (.ok value) memory later) :
    (pure value : Task sig ε σ α).wp setting post memory state :=
  holds

theorem wp_throw {error : ε}
    (holds : ∀ later, setting.rely state later → setting.inv later →
      post (.error error) memory later) :
    (throw error : Task sig ε σ α).wp setting post memory state :=
  holds

theorem wp_await {op : sig.Op} {post : Except ε (sig.Reply op) → σ → State → Prop}
    (holds : ∀ later, setting.rely state later → setting.inv later →
      setting.allow later op ∧
      ∀ reply after, setting.serve later op reply after → setting.inv after →
        ∀ last, setting.rely after last → setting.inv last → post (.ok reply) memory last) :
    (await op : Task sig ε σ (sig.Reply op)).wp setting post memory state :=
  holds

theorem wp_bind {task : Task sig ε σ α} {next : α → Task sig ε σ β}
    {post : Except ε β → σ → State → Prop}
    (holds : task.wp setting (fun outcome memory later =>
      match outcome with
      | .ok value => (next value).wp setting post memory later
      | .error error => ∀ last, setting.rely later last → setting.inv last →
          post (.error error) memory last) memory state)
    (valid : setting.inv state) : (task >>= next).wp setting post memory state := by
  unfold wp
  rw [start_bind]
  refine Prog.wp_bind (Prog.wp_mono holds ?_) valid
  rintro ⟨outcome, after⟩ later _ continues
  cases outcome with
  | ok value => exact continues
  | error error => exact continues

theorem wp_tryCatch {task : Task sig ε σ α} {handler : ε → Task sig ε σ α}
    (holds : task.wp setting (fun outcome memory later =>
      match outcome with
      | .ok value => ∀ last, setting.rely later last → setting.inv last →
          post (.ok value) memory last
      | .error error => (handler error).wp setting post memory later) memory state)
    (valid : setting.inv state) : (tryCatch task handler).wp setting post memory state := by
  unfold wp
  rw [start_tryCatch]
  refine Prog.wp_bind (Prog.wp_mono holds ?_) valid
  rintro ⟨outcome, after⟩ later _ continues
  cases outcome with
  | ok value => exact continues
  | error error => exact continues

theorem wp_failSoft {task : Task sig ε σ PUnit} {post : Except ε PUnit → σ → State → Prop}
    (holds : task.wp setting (fun _ memory later =>
      ∀ last, setting.rely later last → setting.inv last → post (.ok ⟨⟩) memory last)
      memory state)
    (valid : setting.inv state) : (failSoft task).wp setting post memory state := by
  refine wp_tryCatch (wp_mono holds ?_) valid
  intro outcome memory later _ continues
  cases outcome with
  | ok value => exact continues
  | error error => exact wp_pure continues

theorem wp_when {condition : Prop} [Decidable condition] {task : Task sig ε σ PUnit}
    {post : Except ε PUnit → σ → State → Prop}
    (taken : condition → task.wp setting post memory state)
    (skipped : ¬ condition → ∀ later, setting.rely state later → setting.inv later →
      post (.ok ⟨⟩) memory later) : (when condition task).wp setting post memory state := by
  unfold when
  split
  · exact taken ‹_›
  · exact wp_pure (skipped ‹_›)

theorem wp_withFinally {task : Task sig ε σ α} {cleanup : Task sig ε σ PUnit}
    (holds : task.wp setting (fun outcome memory later =>
      cleanup.wp setting (fun done memory last =>
        match done with
        | .ok _ => post outcome memory last
        | .error error => post (.error error) memory last) memory later) memory state)
    (valid : setting.inv state) : (withFinally task cleanup).wp setting post memory state := by
  refine wp_bind (wp_tryCatch (wp_bind (wp_mono holds ?_) valid) valid) valid
  intro outcome memory later kept continues
  have ends : ∀ last, setting.rely later last → setting.inv last →
      (cleanup >>= fun _ => match outcome with
        | .ok value => pure value
        | .error error => throw error).wp setting post memory last := by
    intro last step validLast
    refine wp_bind (wp_mono (wp_stable (wp_of_rely continues step)) ?_) validLast
    intro done memory last _ holds
    cases done with
    | error error => exact holds
    | ok _ =>
        cases outcome with
        | ok value => exact wp_pure holds
        | error error => exact wp_throw holds
  cases outcome with
  | ok value =>
      exact wp_pure fun last step _ middle further => ends middle (setting.rely_trans step further)
  | error error =>
      exact fun last step _ => wp_pure fun middle further =>
        ends middle (setting.rely_trans step further)

theorem wp_focus {τ : Type} {view : σ → τ} {update : σ → τ → σ} {task : Task sig ε τ α}
    (holds : task.wp setting (fun outcome inner later => post outcome (update memory inner) later)
      (view memory) state)
    (valid : setting.inv state) : (focus view update task).wp setting post memory state := by
  unfold wp
  rw [start_focus]
  exact Prog.wp_bind (Prog.wp_stable holds) valid

end Rules

end Task

end Async
