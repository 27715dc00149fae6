import ByFramework.Async.Logic

/-! Rules for a task that nothing else runs beside, and what it keeps. -/

namespace Async

namespace Task

variable {sig : Signature} {State ε σ α β Item : Type}

section Alone

variable {serve : State → (op : sig.Op) → sig.Reply op → State → Prop}
  {allow : State → sig.Op → Prop} {post : Except ε α → σ → State → Prop} {memory : σ} {state : State}

theorem wp_alone_pure {value : α} (holds : post (.ok value) memory state) :
    (pure value : Task sig ε σ α).wp (.alone serve allow) post memory state := by
  rintro _ rfl -
  exact holds

theorem wp_alone_throw {error : ε} (holds : post (.error error) memory state) :
    (throw error : Task sig ε σ α).wp (.alone serve allow) post memory state := by
  rintro _ rfl -
  exact holds

theorem wp_alone_get {post : Except ε σ → σ → State → Prop}
    (holds : post (.ok memory) memory state) :
    (get : Task sig ε σ σ).wp (.alone serve allow) post memory state := by
  rintro _ rfl -
  exact holds

theorem wp_alone_modify {change : σ → σ} {post : Except ε PUnit → σ → State → Prop}
    (holds : post (.ok ⟨⟩) (change memory) state) :
    (modify change : Task sig ε σ PUnit).wp (.alone serve allow) post memory state := by
  rintro _ rfl -
  exact holds

theorem wp_alone_issue {op : sig.Op} {post : Except ε (sig.Reply op) → σ → State → Prop}
    (allowed : allow state op)
    (holds : ∀ reply after, serve state op reply after → post (.ok reply) memory after) :
    (await op : Task sig ε σ (sig.Reply op)).wp (.alone serve allow) post memory state := by
  rintro later rfl -
  refine ⟨allowed, ?_⟩
  rintro reply after served - last rfl -
  exact holds reply after served

theorem wp_alone_await {op : sig.Op} {post : Except ε (sig.Reply op) → σ → State → Prop}
    (holds : ∀ reply after, serve state op reply after → post (.ok reply) memory after) :
    (await op : Task sig ε σ (sig.Reply op)).wp (.alone serve) post memory state :=
  wp_alone_issue trivial holds

theorem wp_alone_bind {task : Task sig ε σ α} {next : α → Task sig ε σ β}
    {post : Except ε β → σ → State → Prop}
    (holds : task.wp (.alone serve allow) (fun outcome memory later =>
      match outcome with
      | .ok value => (next value).wp (.alone serve allow) post memory later
      | .error error => post (.error error) memory later) memory state) :
    (task >>= next).wp (.alone serve allow) post memory state := by
  refine wp_bind (wp_mono holds ?_) trivial
  intro outcome memory later _ continues
  cases outcome with
  | ok value => exact continues
  | error error =>
      rintro _ rfl -
      exact continues

theorem wp_alone_tryCatch {task : Task sig ε σ α} {handler : ε → Task sig ε σ α}
    (holds : task.wp (.alone serve allow) (fun outcome memory later =>
      match outcome with
      | .ok value => post (.ok value) memory later
      | .error error => (handler error).wp (.alone serve allow) post memory later) memory state) :
    (tryCatch task handler).wp (.alone serve allow) post memory state := by
  refine wp_tryCatch (wp_mono holds ?_) trivial
  intro outcome memory later _ continues
  cases outcome with
  | ok value =>
      rintro _ rfl -
      exact continues
  | error error => exact continues

theorem wp_alone_any_bind {task : Task sig ε σ α} {next : α → Task sig ε σ β}
    {post : Except ε β → σ → State → Prop}
    (throws : ∀ error memory later, post (.error error) memory later)
    (returns : ∀ value memory later, (next value).wp (.alone serve) post memory later) :
    (task >>= next).wp (.alone serve) post memory state := by
  refine wp_alone_bind (Prog.wp_any fun outcome later => ?_)
  obtain ⟨outcome, memory⟩ := outcome
  cases outcome with
  | ok value => exact returns value memory later
  | error error => exact throws error memory later

theorem wp_alone_when {condition : Prop} [Decidable condition] {task : Task sig ε σ PUnit}
    {post : Except ε PUnit → σ → State → Prop}
    (taken : condition → task.wp (.alone serve allow) post memory state)
    (skipped : ¬ condition → post (.ok ⟨⟩) memory state) :
    (when condition task).wp (.alone serve allow) post memory state := by
  refine wp_when taken fun not => ?_
  rintro _ rfl -
  exact skipped not

theorem wp_alone_forEach {step : Item → Task sig ε σ PUnit} (fact : σ → State → Prop)
    (items : List Item)
    (round : ∀ item ∈ items, ∀ memory state, fact memory state →
      (step item).wp (.alone serve allow) (fun outcome memory later => outcome = .ok ⟨⟩ ∧
        fact memory later) memory state)
    (holds : fact memory state) :
    (forEach items step).wp (.alone serve allow) (fun outcome memory later => outcome = .ok ⟨⟩ ∧
      fact memory later) memory state := by
  induction items generalizing memory state with
  | nil => exact wp_alone_pure ⟨rfl, holds⟩
  | cons item rest ih =>
      refine wp_alone_bind (wp_mono (round item (by simp) memory state holds) ?_)
      rintro outcome memory later - ⟨rfl, kept⟩
      exact ih (fun next inRest => round next (by simp [inRest])) kept

theorem wp_alone_mapEach {step : Item → Task sig ε σ α} (fact : List α → σ → State → Prop)
    (items : List Item)
    (round : ∀ item ∈ items, ∀ values memory state, fact values memory state →
      (step item).wp (.alone serve allow) (fun outcome memory later => ∃ value,
        outcome = .ok value ∧ fact (values ++ [value]) memory later) memory state)
    (holds : fact [] memory state) :
    (mapEach items step).wp (.alone serve allow) (fun outcome memory later => ∃ values,
      outcome = .ok values ∧ fact values memory later) memory state := by
  have each (items : List Item) : ∀ (before : List α) (memory : σ) (state : State),
      (∀ item ∈ items, ∀ values memory state, fact values memory state →
        (step item).wp (.alone serve allow) (fun outcome memory later => ∃ value,
          outcome = .ok value ∧ fact (values ++ [value]) memory later) memory state) →
      fact before memory state →
      (mapEach items step).wp (.alone serve allow) (fun outcome memory later => ∃ values,
        outcome = .ok values ∧ fact (before ++ values) memory later) memory state := by
    induction items with
    | nil => exact fun before memory state _ holds =>
        wp_alone_pure ⟨[], rfl, by simpa using holds⟩
    | cons item rest ih =>
        intro before memory state round holds
        refine wp_alone_bind (wp_mono (round item (by simp) before memory state holds) ?_)
        rintro outcome memory middle - ⟨value, rfl, kept⟩
        refine wp_alone_bind (wp_mono (ih (before ++ [value]) memory middle
          (fun next inRest => round next (by simp [inRest])) kept) ?_)
        rintro outcome memory last - ⟨values, rfl, all⟩
        exact wp_alone_pure ⟨value :: values, rfl, by simpa using all⟩
  exact each items [] memory state round holds

theorem wp_alone_attempt {task : Task sig ε σ α} {fact : Except ε α → σ → State → Prop}
    (holds : task.wp (.alone serve allow) fact memory state) :
    (attempt task).wp (.alone serve allow) (fun outcome memory later => ∃ inner,
      outcome = .ok inner ∧ fact inner memory later) memory state := by
  refine wp_alone_tryCatch (wp_alone_bind (wp_mono holds ?_))
  intro outcome memory later _ kept
  cases outcome with
  | ok value => exact wp_alone_pure ⟨_, rfl, kept⟩
  | error error => exact wp_alone_pure ⟨_, rfl, kept⟩

theorem reaches_bind {task : Task sig ε σ α} {last : State} {op : sig.Op}
    (reaches : (task.start memory).Reaches serve state op last) (next : α → Task sig ε σ β) :
    ((task >>= next).start memory).Reaches serve state op last := by
  rw [start_bind]
  exact reaches.bind _

theorem reaches_after {task : Task sig ε σ α} {next : α → Task sig ε σ β} {value : α} {kept : σ}
    {middle last : State} {op : sig.Op}
    (ends : (task.start memory).Ends serve state (.ok value, kept) middle)
    (reaches : ((next value).start kept).Reaches serve middle op last) :
    ((task >>= next).start memory).Reaches serve state op last := by
  rw [start_bind]
  exact .after ends reaches

theorem reaches_tryCatch {task : Task sig ε σ α} {last : State} {op : sig.Op}
    (reaches : (task.start memory).Reaches serve state op last)
    (handler : ε → Task sig ε σ α) :
    ((tryCatch task handler).start memory).Reaches serve state op last := by
  rw [start_tryCatch]
  exact reaches.bind _

theorem ends_bind {task : Task sig ε σ α} {next : α → Task sig ε σ β} {value : α} {kept : σ}
    {outcome : Except ε β × σ} {middle last : State}
    (first : (task.start memory).Ends serve state (.ok value, kept) middle)
    (rest : ((next value).start kept).Ends serve middle outcome last) :
    ((task >>= next).start memory).Ends serve state outcome last := by
  rw [start_bind]
  exact first.bind rest

theorem ends_bind_error {task : Task sig ε σ α} {next : α → Task sig ε σ β} {error : ε} {kept : σ}
    {last : State} (first : (task.start memory).Ends serve state (.error error, kept) last) :
    ((task >>= next).start memory).Ends serve state (.error error, kept) last := by
  rw [start_bind]
  exact first.bind .done

theorem ends_bind_iff {task : Task sig ε σ α} {next other : α → Task sig ε σ β}
    {returned : Except ε α → σ → State → Prop} {outcome : Except ε β × σ} {last : State}
    (holds : task.wp (.alone serve allow) returned memory state)
    (alike : ∀ value kept middle, returned (.ok value) kept middle →
      (((next value).start kept).Ends serve middle outcome last ↔
        ((other value).start kept).Ends serve middle outcome last)) :
    ((task >>= next).start memory).Ends serve state outcome last ↔
      ((task >>= other).start memory).Ends serve state outcome last := by
  rw [start_bind, start_bind]
  refine Prog.ends_bind_right holds ?_
  rintro ⟨_ | value, kept⟩ middle held
  · exact Iff.rfl
  · exact alike value kept middle held

theorem ends_withFinally_iff {task other : Task sig ε σ α} {cleanup : Task sig ε σ PUnit}
    {outcome : Except ε α × σ} {last : State}
    (alike : ∀ outcome middle, (task.start memory).Ends serve state outcome middle ↔
      (other.start memory).Ends serve state outcome middle) :
    ((withFinally task cleanup).start memory).Ends serve state outcome last ↔
      ((withFinally other cleanup).start memory).Ends serve state outcome last := by
  unfold withFinally
  rw [start_bind, start_bind, start_tryCatch, start_tryCatch, start_bind, start_bind]
  exact Prog.ends_bind_left fun _ _ => Prog.ends_bind_left fun _ _ =>
    Prog.ends_bind_left alike

/-- Answers that are among those of `serve` lead to an end as it is under these answers alone. -/
theorem ends_of_wp {task : Task sig ε σ α} {narrow : State → (op : sig.Op) → sig.Reply op → State → Prop}
    {answer : State → (op : sig.Op) → sig.Reply op × State}
    (served : ∀ state op, narrow state op (answer state op).1 (answer state op).2)
    (widens : ∀ state op reply after, narrow state op reply after → serve state op reply after)
    (holds : task.wp (.alone narrow) post memory state) :
    ∃ outcome kept last, (task.start memory).Ends serve state (outcome, kept) last ∧
      post outcome kept last := by
  refine ⟨_, _, _, Prog.ends_run (fun before op => widens _ _ _ _ (served before op)) _ state, ?_⟩
  exact Prog.wp_run holds served

end Alone

/-- A task that finds `inv` true of its memory and of what it works on leaves it true. -/
def Keeps (setting : Setting sig State) (inv : σ → State → Prop) (task : Task sig ε σ α) : Prop :=
  ∀ memory state, inv memory state → task.wp setting (fun _ => inv) memory state

section Invariant

variable {serve : State → (op : sig.Op) → sig.Reply op → State → Prop}
  {allow : State → sig.Op → Prop} {inv : σ → State → Prop}

theorem keeps_pure (value : α) :
    Keeps (.alone serve allow) inv (pure value : Task sig ε σ α) :=
  fun _ _ held => wp_alone_pure held

theorem keeps_throw (error : ε) :
    Keeps (.alone serve allow) inv (throw error : Task sig ε σ α) :=
  fun _ _ held => wp_alone_throw held

theorem keeps_modify {change : σ → σ} (kept : ∀ memory state, inv memory state →
    inv (change memory) state) :
    Keeps (.alone serve allow) inv (modify change : Task sig ε σ PUnit) :=
  fun memory state held => wp_alone_modify (kept memory state held)

theorem keeps_bind {task : Task sig ε σ α} {next : α → Task sig ε σ β}
    (first : Keeps (.alone serve allow) inv task)
    (rest : ∀ value, Keeps (.alone serve allow) inv (next value)) :
    Keeps (.alone serve allow) inv (task >>= next) := by
  intro memory state held
  refine wp_alone_bind (wp_mono (first memory state held) ?_)
  intro outcome after later _ kept
  cases outcome with
  | ok value => exact rest value after later kept
  | error error => exact kept

theorem keeps_tryCatch {task : Task sig ε σ α} {handler : ε → Task sig ε σ α}
    (first : Keeps (.alone serve allow) inv task)
    (rest : ∀ error, Keeps (.alone serve allow) inv (handler error)) :
    Keeps (.alone serve allow) inv (tryCatch task handler) := by
  intro memory state held
  refine wp_alone_tryCatch (wp_mono (first memory state held) ?_)
  intro outcome after later _ kept
  cases outcome with
  | ok value => exact kept
  | error error => exact rest error after later kept

theorem keeps_attempt {task : Task sig ε σ α} (keeps : Keeps (.alone serve allow) inv task) :
    Keeps (.alone serve allow) inv (attempt task) :=
  keeps_tryCatch (keeps_bind keeps fun _ => keeps_pure _) fun _ => keeps_pure _

theorem keeps_mapEach {step : Item → Task sig ε σ α} (items : List Item)
    (round : ∀ item ∈ items, Keeps (.alone serve allow) inv (step item)) :
    Keeps (.alone serve allow) inv (mapEach items step) := by
  induction items with
  | nil => exact keeps_pure []
  | cons item rest ih =>
      refine keeps_bind (round item (by simp)) fun value => ?_
      exact keeps_bind (ih fun next inRest => round next (by simp [inRest])) fun _ => keeps_pure _

end Invariant

end Task

end Async
