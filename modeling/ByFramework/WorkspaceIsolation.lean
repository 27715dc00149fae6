import ByFramework.SandboxCore
import ByFramework.Async.Schedule
import ByFramework.Effects

/-!
Messages that run beside each other in one process, which has one active workspace. Each is judged
against its own while the spans in which they set it are nested.
-/

namespace ByFramework

open Async

structure MessageTask where
  command : GatewayCommand
  options : HandleMessageOptions

structure SandboxProcess where
  worker : GatewayWorker
  handler : SandboxHandler
  cwd : String
  baseDir : String

abbrev MessageOutcome := Except JsError AgentTaskResult × Option AgentContext

namespace SandboxProcess

variable (process : SandboxProcess)

def program (task : MessageTask) : Prog sandboxEffects MessageOutcome :=
  Task.start (Sandboxed.handleMessage process.worker process.handler task.command task.options) none

def own (task : MessageTask) : String :=
  privateWorkspace process.baseDir task.command.header.sessionId task.command.header.messageId

def serve (active : String) : (op : SandboxOp) → op.Reply → String → Prop
  | .task (.worker _), _, after => after = active
  | .task (.assertPathAllowed filePath), reply, after =>
      after = active ∧ reply = assertPathAllowed process.cwd active filePath
  | .setupWorkspace sessionId taskId, reply, after => after = active ∧
      ∀ paths, reply = .ok paths →
        paths.privateDir = privateWorkspace process.baseDir sessionId taskId
  | .getActiveWorkspace, reply, after => after = active ∧ reply = active
  | .setActiveWorkspace workspace, _, after => after = workspace

/-- Messages start at any time, and end when they have been handled. -/
def world {ι : Type} (tasks : ι → MessageTask) : World sandboxEffects String ι MessageOutcome where
  serve := process.serve
  start active index program after := program = process.program (tasks index) ∧ after = active
  stop active _ program after := (∃ outcome, program = .done outcome) ∧ after = active
  lapse _ _ := False

end SandboxProcess

/-! ### What a message does with the workspace -/

/-- How far a message has come with it. -/
inductive WorkspacePhase where
  | fresh
  | saved
  | ready
  | current
  | restored
deriving DecidableEq

structure WorkspaceMemo where
  phase : WorkspacePhase
  saved : String

def noteWorkspace (memo : WorkspaceMemo) : (op : SandboxOp) → op.Reply → WorkspaceMemo
  | .getActiveWorkspace, reply => ⟨.saved, reply⟩
  | .setupWorkspace _ _, .ok _ => { memo with phase := .ready }
  | .setActiveWorkspace _, _ =>
      { memo with phase := if memo.phase = .ready then .current else .restored }
  | _, _ => memo

/-- A message saves the workspace, then may set its own, asks for paths only while that is done,
and restores what it saved. -/
def workspaceAllows (baseDir own : String) (memo : WorkspaceMemo) : SandboxOp → Prop
  | .task (.worker _) => True
  | .task (.assertPathAllowed _) => memo.phase = .current
  | .setupWorkspace sessionId taskId =>
      memo.phase = .saved ∧ own = privateWorkspace baseDir sessionId taskId
  | .getActiveWorkspace => memo.phase = .fresh
  | .setActiveWorkspace workspace => memo.phase = .ready ∧ workspace = own ∨
      (memo.phase = .saved ∨ memo.phase = .current) ∧ workspace = memo.saved

def workspaceWatch (baseDir own : String) : Watch sandboxEffects WorkspaceMemo where
  first := ⟨.fresh, ""⟩
  note := noteWorkspace
  allow := workspaceAllows baseDir own
  expect _ op reply := match op, reply with
    | .setupWorkspace sessionId taskId, .ok paths =>
        paths.privateDir = privateWorkspace baseDir sessionId taskId
    | _, _ => True

theorem privateWorkspace_ne_empty (baseDir sessionId taskId : String) :
    privateWorkspace baseDir sessionId taskId ≠ "" := by
  have filled (filePath : List Char) : normalizePath filePath ≠ [] := by
    unfold normalizePath
    dsimp only
    split
    · split
      · simp
      · simp
    · split
      · simp
      · rename_i plain _
        simp [plain]
  intro empty
  have blank := congrArg String.toList empty
  unfold privateWorkspace joinPath at blank
  rw [String.toList_ofList] at blank
  exact filled _ blank

section Message

variable {worker : GatewayWorker} {handler : SandboxHandler} {command : GatewayCommand}
  {options : HandleMessageOptions} {baseDir own : String} {σ α β : Type} {memory : σ}
  {memo : WorkspaceMemo}

theorem wp_ofWorker (task : Proc σ α) :
    (Task.embed ofWorker task).wp (workspaceWatch baseDir own).setting
      (fun _ _ later => later = memo) memory memo :=
  Task.wp_embed_watched task fun _ => ⟨trivial, fun _ => rfl⟩

theorem wp_ofWorker_bind {task : Proc σ α} {next : α → Task sandboxEffects JsError σ β}
    {post : Except JsError β → σ → WorkspaceMemo → Prop}
    (throws : ∀ error memory, post (.error error) memory memo)
    (returns : ∀ value memory,
      (next value).wp (workspaceWatch baseDir own).setting post memory memo) :
    (Task.embed ofWorker task >>= next).wp (workspaceWatch baseDir own).setting post memory
      memo := by
  refine Task.wp_alone_bind (Task.wp_mono (wp_ofWorker task) ?_)
  rintro outcome after later - rfl
  cases outcome with
  | ok value => exact returns value after
  | error error => exact throws error after

def Unrestored (saved : String) (memo : WorkspaceMemo) : Prop :=
  (memo.phase = .saved ∨ memo.phase = .current) ∧ memo.saved = saved

theorem setupWorkspace_watched {run : MessageRun} {saved : String}
    (named : own = privateWorkspace baseDir command.header.sessionId command.header.messageId) :
    (Sandboxed.setupWorkspace worker command).wp (workspaceWatch baseDir own).setting
      (fun outcome _ later => Unrestored saved later ∧
        (outcome = .ok ⟨⟩ → worker.usesWorkspace = true → later.phase = .current)) run
      ⟨.saved, saved⟩ := by
  refine Task.wp_alone_when (fun uses => ?_) fun unused => ?_
  · refine Task.wp_alone_bind (Task.wp_alone_issue ⟨rfl, named⟩ ?_)
    rintro (error | paths) after ⟨expected, rfl⟩
    · exact Task.wp_alone_throw ⟨⟨.inl rfl, rfl⟩, nofun⟩
    · refine Task.wp_alone_bind (Task.wp_alone_modify ?_)
      have path : paths.privateDir = own := by rw [named, ← expected]
      refine Task.wp_alone_when (fun _ => ?_) fun empty => ?_
      · refine Task.wp_alone_bind (Task.wp_alone_issue (.inl ⟨rfl, path⟩) ?_)
        rintro reply after ⟨_, rfl⟩
        exact Task.wp_alone_pure ⟨⟨.inr rfl, rfl⟩, fun _ _ => rfl⟩
      · rw [path, named] at empty
        exact absurd (privateWorkspace_ne_empty _ _ _) empty
  · exact ⟨⟨.inl rfl, rfl⟩, fun _ uses => absurd uses unused⟩

theorem runHandler_watched {run : MessageRun} (current : memo.phase = .current) :
    (Sandboxed.runHandler handler command options).wp (workspaceWatch baseDir own).setting
      (fun _ _ later => later = memo) run memo := by
  refine Task.wp_alone_bind (Task.wp_alone_get ?_)
  refine Task.wp_focus (Task.wp_embed_watched _ fun op => ?_) trivial
  cases op with
  | worker op => exact ⟨trivial, fun _ => rfl⟩
  | assertPathAllowed filePath => exact ⟨current, fun _ => rfl⟩

theorem processMessage_watched (uses : worker.usesWorkspace = true) {run : MessageRun}
    {saved : String}
    (named : own = privateWorkspace baseDir command.header.sessionId command.header.messageId) :
    (Sandboxed.processMessage worker handler command options).wp
      (workspaceWatch baseDir own).setting (fun _ _ later => Unrestored saved later) run
      ⟨.saved, saved⟩ := by
  have untouched : Unrestored saved ⟨.saved, saved⟩ := ⟨.inl rfl, rfl⟩
  refine wp_ofWorker_bind (fun _ _ => untouched) fun _ run => ?_
  refine wp_ofWorker_bind (fun _ _ => untouched) fun _ run => ?_
  refine Task.wp_alone_bind (Task.wp_mono (setupWorkspace_watched named) ?_)
  rintro (error | ⟨⟩) run later - ⟨unrestored, current⟩
  · exact unrestored
  · refine wp_ofWorker_bind (fun _ _ => unrestored) fun early run => ?_
    cases early with
    | some early => exact Task.wp_alone_pure unrestored
    | none =>
        refine Task.wp_alone_bind (Task.wp_mono (runHandler_watched (current rfl uses)) ?_)
        rintro (error | value) run last - rfl
        · exact unrestored
        · refine Task.wp_mono (wp_ofWorker _) ?_
          rintro outcome run last - rfl
          exact unrestored

theorem handleMessage_watched (uses : worker.usesWorkspace = true)
    (named : own = privateWorkspace baseDir command.header.sessionId command.header.messageId) :
    (Sandboxed.handleMessage worker handler command options).wp
      (workspaceWatch baseDir own).setting
      (fun _ _ later => later.phase = .fresh ∨ later.phase = .restored) none ⟨.fresh, ""⟩ := by
  refine wp_ofWorker_bind (fun _ _ => .inl rfl) fun traceId context => ?_
  refine Task.wp_alone_bind (Task.wp_alone_issue rfl ?_)
  rintro saved after ⟨_, rfl⟩
  refine Task.wp_focus (Task.wp_withFinally ?_ trivial) trivial
  have recovered : (tryCatch (Sandboxed.processMessage worker handler command options) fun error =>
      Task.embed ofWorker (worker.recover command options error)).wp
        (workspaceWatch baseDir own).setting (fun _ _ later => Unrestored saved later)
        (MessageRun.make worker command options traceId) ⟨.saved, saved⟩ := by
    refine Task.wp_alone_tryCatch (Task.wp_mono (processMessage_watched uses named) ?_)
    rintro (error | result) run later - unrestored
    · refine Task.wp_mono (wp_ofWorker _) ?_
      rintro outcome run last - rfl
      exact unrestored
    · exact unrestored
  refine Task.wp_mono recovered ?_
  rintro outcome run ⟨phase, kept⟩ - ⟨current, rfl⟩
  refine Task.wp_alone_bind (Task.wp_alone_issue (.inr ⟨current, rfl⟩) ?_)
  rintro reply after ⟨_, rfl⟩
  have restored : (noteWorkspace ⟨phase, kept⟩ (.setActiveWorkspace kept) reply).phase =
      .restored := by
    rcases current with rfl | rfl
    · rfl
    · rfl
  refine Task.wp_mono (wp_ofWorker _) ?_
  rintro done run last - rfl
  cases done with
  | ok _ => exact .inr restored
  | error error => exact .inr restored

end Message

/-- What the events so far say of the messages: how far each has come, whose workspaces are set,
the last first, and which were when a message saved the one before. -/
structure Desk (ι : Type) where
  memo : ι → WorkspaceMemo
  opened : List ι
  under : ι → List ι

section Desk

variable {ι : Type} [DecidableEq ι]

namespace Desk

def first : Desk ι where
  memo _ := ⟨.fresh, ""⟩
  opened := []
  under _ := []

/-- The messages whose workspace is set once `index` has set or restored one. -/
def turn (desk : Desk ι) (index : ι) : List ι :=
  match (desk.memo index).phase with
  | .ready => index :: desk.opened
  | .current => desk.opened.erase index
  | _ => desk.opened

def see (desk : Desk ι) : Event sandboxEffects ι → Desk ι
  | .start index => { desk with memo := Function.update desk.memo index ⟨.fresh, ""⟩ }
  | .issue index op reply =>
      { memo := Function.update desk.memo index (noteWorkspace (desk.memo index) op reply)
        opened := match op with
          | .setActiveWorkspace _ => desk.turn index
          | _ => desk.opened
        under := match op with
          | .getActiveWorkspace => Function.update desk.under index desk.opened
          | _ => desk.under }
  | _ => desk

def after (past : List (Event sandboxEffects ι)) : Desk ι := past.foldl see first

theorem after_append (past : List (Event sandboxEffects ι)) (event : Event sandboxEffects ι) :
    after (past ++ [event]) = (after past).see event := by
  simp only [after, List.foldl_append, List.foldl_cons, List.foldl_nil]

theorem memo_after (past : List (Event sandboxEffects ι)) (baseDir own : String) (index : ι) :
    (after past).memo index = (workspaceWatch baseDir own).memo index past := by
  induction past using List.reverseRecOn with
  | nil => rfl
  | append_singleton past event ih =>
      rw [after_append, Watch.memo_append, ← ih]
      cases event with
      | issue other op reply =>
          by_cases same : other = index
          · subst same
            simp [see, Watch.see, workspaceWatch]
          · simp [see, Watch.see, same, Ne.symm same]
      | start other =>
          by_cases same : other = index
          · subst same
            simp [see, Watch.see, workspaceWatch]
          · simp [see, Watch.see, same, Ne.symm same]
      | stop other => rfl
      | lapse => rfl

end Desk

/-- Workspaces are set and restored like a stack: a message finds those set that it found when it
saved the one before, its own on top when it restores that one, and asks for paths only while its
own was set last. -/
def Nested (past : List (Event sandboxEffects ι)) : Event sandboxEffects ι → Prop
  | .issue index (.setActiveWorkspace _) _ =>
      (Desk.after past).opened =
        if ((Desk.after past).memo index).phase = .current then
          index :: (Desk.after past).under index
        else (Desk.after past).under index
  | .issue index (.task (.assertPathAllowed _)) _ => (Desk.after past).opened.head? = some index
  | _ => True

/-! ### What nesting keeps -/

/-- The workspace that is active with the given ones set, over what was active at first. -/
def topWorkspace (own : ι → String) (initial : String) : List ι → String
  | [] => initial
  | index :: _ => own index

structure Tidy (own : ι → String) (initial : String) (desk : Desk ι) (active : String) : Prop where
  active : active = topWorkspace own initial desk.opened
  saved : ∀ index, (desk.memo index).phase ≠ .fresh → (desk.memo index).phase ≠ .restored →
    (desk.memo index).saved = topWorkspace own initial (desk.under index)
  current : ∀ index, index ∈ desk.opened ↔ (desk.memo index).phase = .current
  nodup : desk.opened.Nodup

namespace Tidy

variable {own : ι → String} {initial active : String} {desk : Desk ι} {index : ι}

theorem aside (tidy : Tidy own initial desk active) {memo : WorkspaceMemo} (under : List ι)
    (before : (desk.memo index).phase ≠ .current) (after : memo.phase ≠ .current)
    (saved : memo.phase ≠ .fresh → memo.phase ≠ .restored →
      memo.saved = topWorkspace own initial under) :
    Tidy own initial ⟨Function.update desk.memo index memo, desk.opened,
      Function.update desk.under index under⟩ active := by
  refine ⟨tidy.active, ?_, ?_, tidy.nodup⟩
  · intro other
    by_cases same : other = index
    · subst same
      simpa using saved
    · simpa [same] using tidy.saved other
  · intro other
    by_cases same : other = index
    · subst same
      simpa [after, before] using tidy.current other
    · simpa [same] using tidy.current other

theorem aside_kept (tidy : Tidy own initial desk active) {memo : WorkspaceMemo}
    (before : (desk.memo index).phase ≠ .current) (after : memo.phase ≠ .current)
    (saved : memo.phase ≠ .fresh → memo.phase ≠ .restored →
      memo.saved = topWorkspace own initial (desk.under index)) :
    Tidy own initial ⟨Function.update desk.memo index memo, desk.opened, desk.under⟩ active := by
  have aside := tidy.aside (desk.under index) before after saved
  rwa [Function.update_eq_self] at aside

theorem setsUp (tidy : Tidy own initial desk active) {sessionId taskId : String}
    {reply : (SandboxOp.setupWorkspace sessionId taskId).Reply}
    (phase : (desk.memo index).phase = .saved) :
    Tidy own initial (desk.see (.issue index (.setupWorkspace sessionId taskId) reply))
      active := by
  have kept := tidy.saved index
  rw [phase] at kept
  refine tidy.aside_kept ?_ ?_ fun _ _ => ?_
  · rw [phase]
    nofun
  · cases reply with
    | error error =>
        change (desk.memo index).phase ≠ .current
        rw [phase]
        nofun
    | ok paths => nofun
  · cases reply with
    | error error => exact kept nofun nofun
    | ok paths => exact kept nofun nofun

theorem putsBack (tidy : Tidy own initial desk active) (phase : (desk.memo index).phase = .saved)
    (same : desk.opened = desk.under index) :
    Tidy own initial ⟨Function.update desk.memo index ⟨.restored, (desk.memo index).saved⟩,
      desk.opened, desk.under⟩ (desk.memo index).saved := by
  have kept := tidy.saved index
  rw [phase] at kept
  have restored : (desk.memo index).saved = active := by
    rw [kept nofun nofun, tidy.active, same]
  rw [restored]
  refine tidy.aside_kept ?_ nofun fun _ again => absurd rfl again
  rw [phase]
  nofun

theorem sets (tidy : Tidy own initial desk active)
    (ready : (desk.memo index).phase = .ready) :
    Tidy own initial ⟨Function.update desk.memo index ⟨.current, (desk.memo index).saved⟩,
      index :: desk.opened, desk.under⟩ (own index) := by
  have absent : index ∉ desk.opened := by
    rw [tidy.current index, ready]
    nofun
  refine ⟨rfl, ?_, ?_, List.nodup_cons.mpr ⟨absent, tidy.nodup⟩⟩
  · intro other
    by_cases same : other = index
    · subst same
      have kept := tidy.saved other
      rw [ready] at kept
      simpa using kept
    · simpa [same] using tidy.saved other
  · intro other
    by_cases same : other = index
    · subst same
      simp
    · simpa [same] using tidy.current other

theorem restores (tidy : Tidy own initial desk active)
    (current : (desk.memo index).phase = .current)
    (last : desk.opened = index :: desk.under index) :
    Tidy own initial ⟨Function.update desk.memo index ⟨.restored, (desk.memo index).saved⟩,
      desk.under index, desk.under⟩ (desk.memo index).saved := by
  have nodup := tidy.nodup
  rw [last, List.nodup_cons] at nodup
  refine ⟨?_, ?_, ?_, nodup.2⟩
  · apply tidy.saved index
    · rw [current]
      nofun
    · rw [current]
      nofun
  · intro other
    by_cases same : other = index
    · subst same
      simp
    · simpa [same] using tidy.saved other
  · intro other
    by_cases same : other = index
    · subst same
      simpa using nodup.1
    · have known := tidy.current other
      rw [last] at known
      simpa [same] using known

end Tidy

end Desk

section Runs

variable {ι : Type} [DecidableEq ι] {process : SandboxProcess} {tasks : ι → MessageTask}
  {past : List (Event sandboxEffects ι)} {desk : Desk ι}
  {before after : Config sandboxEffects String ι MessageOutcome} {initial : String}

def SandboxProcess.owned (process : SandboxProcess) (tasks : ι → MessageTask) (index : ι) :
    String := process.own (tasks index)

def SandboxProcess.watches (process : SandboxProcess) (tasks : ι → MessageTask) (index : ι) :
    Watch sandboxEffects WorkspaceMemo :=
  workspaceWatch process.baseDir (process.own (tasks index))

theorem Tidy.issue {active next : String} {index : ι} {op : SandboxOp} {reply : op.Reply}
    (tidy : Tidy (process.owned tasks) initial (Desk.after past) active)
    (allowed : workspaceAllows process.baseDir (process.owned tasks index)
      ((Desk.after past).memo index) op)
    (served : process.serve active op reply next) (nested : Nested past (.issue index op reply)) :
    Tidy (process.owned tasks) initial ((Desk.after past).see (.issue index op reply)) next := by
  simp only [Nested] at nested
  generalize Desk.after past = desk at *
  cases op with
  | task op =>
      have same : noteWorkspace (desk.memo index) (.task op) reply = desk.memo index := rfl
      have still : next = active := by
        cases op with
        | worker op => exact served
        | assertPathAllowed filePath => exact served.1
      simp only [Desk.see, same, Function.update_eq_self]
      rw [still]
      exact tidy
  | setupWorkspace sessionId taskId =>
      obtain ⟨rfl, _⟩ := served
      exact tidy.setsUp allowed.1
  | getActiveWorkspace =>
      obtain ⟨rfl, rfl⟩ := served
      have phase : (desk.memo index).phase = .fresh := allowed
      simp only [Desk.see]
      apply tidy.aside
      · rw [phase]
        nofun
      · nofun
      · intro _ _
        exact tidy.active
  | setActiveWorkspace workspace =>
      obtain rfl : next = workspace := served
      simp only [Desk.see, Desk.turn, noteWorkspace]
      rcases allowed with ⟨ready, rfl⟩ | ⟨saved | current, rfl⟩
      · simp only [ready, ↓reduceIte]
        exact tidy.sets ready
      · simp only [saved, reduceCtorEq, ↓reduceIte] at nested ⊢
        exact tidy.putsBack saved nested
      · simp only [current, reduceCtorEq, ↓reduceIte] at nested ⊢
        have left : desk.opened.erase index = desk.under index := by
          rw [nested, List.erase_cons_head]
        rw [left]
        exact tidy.restores current nested

structure Orderly (process : SandboxProcess) (tasks : ι → MessageTask) (initial : String)
    (past : List (Event sandboxEffects ι))
    (config : Config sandboxEffects String ι MessageOutcome) : Prop where
  tidy : Tidy (process.owned tasks) initial (Desk.after past) config.state
  idle : ∀ index, config.task index = none → ((Desk.after past).memo index).phase = .fresh ∨
    ((Desk.after past).memo index).phase = .restored

theorem Orderly.of_idle {first : Config sandboxEffects String ι MessageOutcome} :
    Orderly process tasks first.state [] first := by
  refine ⟨⟨rfl, ?_, ?_, List.nodup_nil⟩, fun index _ => .inl rfl⟩
  · intro index fresh
    exact absurd rfl fresh
  · intro index
    simp [Desk.after, Desk.first]

theorem Orderly.issue {index : ι} {op : SandboxOp} {reply : op.Reply} {initial : String}
    (orderly : Orderly process tasks initial past before)
    (allowed : workspaceAllows process.baseDir (process.owned tasks index)
      ((Desk.after past).memo index) op)
    (nested : Nested past (.issue index op reply))
    (step : Step (process.world tasks) before (.issue index op reply) after) :
    Orderly process tasks initial (past ++ [.issue index op reply]) after := by
  cases step with
  | @issue _ _ resume _ next found served =>
      refine ⟨?_, fun other free => ?_⟩
      · rw [Desk.after_append]
        exact orderly.tidy.issue allowed served nested
      · by_cases same : other = index
        · subst same
          simp at free
        · rw [Desk.after_append]
          simpa [Desk.see, same] using orderly.idle other (by simpa [same] using free)

theorem Orderly.start {index : ι} {initial : String}
    (orderly : Orderly process tasks initial past before)
    (step : Step (process.world tasks) before (.start index) after) :
    Orderly process tasks initial (past ++ [.start index]) after := by
  cases step with
  | @start _ program next free started =>
      obtain ⟨_, rfl⟩ := started
      refine ⟨?_, fun other still => ?_⟩
      · rw [Desk.after_append]
        refine orderly.tidy.aside_kept ?_ nofun fun fresh => absurd rfl fresh
        rcases orderly.idle index free with phase | phase
        · rw [phase]
          nofun
        · rw [phase]
          nofun
      · by_cases same : other = index
        · subst same
          simp at still
        · rw [Desk.after_append]
          simpa [Desk.see, same] using orderly.idle other (by simpa [same] using still)

theorem Orderly.stop {index : ι} {initial : String}
    (orderly : Orderly process tasks initial past before)
    (ended : ∀ outcome, before.task index = some (.done outcome) →
      ((Desk.after past).memo index).phase = .fresh ∨
        ((Desk.after past).memo index).phase = .restored)
    (step : Step (process.world tasks) before (.stop index) after) :
    Orderly process tasks initial (past ++ [.stop index]) after := by
  cases step with
  | @stop _ program next found stopped =>
      obtain ⟨⟨outcome, rfl⟩, rfl⟩ := stopped
      refine ⟨?_, fun other still => ?_⟩
      · rw [Desk.after_append]
        exact orderly.tidy
      · rw [Desk.after_append]
        by_cases same : other = index
        · subst same
          exact ended outcome found
        · exact orderly.idle other (by simpa [same] using still)

theorem orderly_runs {first last : Config sandboxEffects String ι MessageOutcome}
    {events : List (Event sandboxEffects ι)} (uses : process.worker.usesWorkspace = true)
    (idle : ∀ index, first.task index = none)
    (runs : Runs (process.world tasks) (fun _ _ => True) first events last)
    (nested : Meets Nested events) :
    Watched (process.watches tasks)
      (fun _ _ memo => memo.phase = .fresh ∨ memo.phase = .restored) events last ∧
    Orderly process tasks first.state events last := by
  refine Runs.watched (Orderly process tasks first.state) runs nested idle .of_idle ?_ ?_ ?_
  · rintro active index program after ⟨rfl, _⟩
    exact handleMessage_watched uses rfl
  · rintro past before index op reply after _ _ _ _ step
    cases step with
    | issue found served =>
        cases op with
        | setupWorkspace sessionId taskId =>
            cases reply with
            | ok paths => exact served.2 paths rfl
            | error error => trivial
        | _ => trivial
  · rintro past before event after watched orderly _ current step later
    have memo (index : ι) : (Desk.after past).memo index =
        (process.watches tasks index).memo index past := Desk.memo_after past _ _ index
    cases event with
    | issue index op reply =>
        have allowed := watched.allows step
        rw [← memo] at allowed
        exact orderly.issue allowed current step
    | start index => exact orderly.start step
    | stop index =>
        refine orderly.stop (fun outcome found => ?_) step
        have ended := watched index _ found _ rfl trivial
        rwa [← memo] at ended
    | lapse =>
        cases step with
        | lapse lapsed => exact lapsed.elim

/-- While the workspaces are set and restored like a stack, each handler is judged against its own,
and in the end the one is active that was at first. -/
theorem workspaces_isolated {first last : Config sandboxEffects String ι MessageOutcome}
    {events : List (Event sandboxEffects ι)} (uses : process.worker.usesWorkspace = true)
    (idle : ∀ index, first.task index = none)
    (runs : Runs (process.world tasks) (fun _ _ => True) first events last)
    (nested : Meets Nested events) :
    (∀ index filePath reply next,
      Nested events (.issue index (.task (.assertPathAllowed filePath)) reply) →
      Step (process.world tasks) last (.issue index (.task (.assertPathAllowed filePath)) reply)
        next →
      last.state = process.own (tasks index) ∧
        reply = assertPathAllowed process.cwd (process.own (tasks index)) filePath) ∧
    ((∀ index program, last.task index = some program → ∃ outcome, program = .done outcome) →
      last.state = first.state) := by
  obtain ⟨watched, tidy, free⟩ := orderly_runs uses idle runs nested
  constructor
  · intro index filePath reply next current step
    have top : (Desk.after events).opened.head? = some index := current
    have active : last.state = process.own (tasks index) := by
      rw [tidy.active]
      cases opened : (Desk.after events).opened with
      | nil =>
          rw [opened] at top
          cases top
      | cons head rest =>
          rw [opened] at top
          obtain rfl : head = index := by simpa using top
          rfl
    cases step with
    | issue found served =>
        refine ⟨active, ?_⟩
        rw [← active]
        exact served.2
  · intro finished
    have closed : (Desk.after events).opened = [] := by
      rw [List.eq_nil_iff_forall_not_mem]
      intro index opened
      have current := (tidy.current index).mp opened
      have ended : ((Desk.after events).memo index).phase = .fresh ∨
          ((Desk.after events).memo index).phase = .restored := by
        cases running : last.task index with
        | none => exact free index running
        | some program =>
            obtain ⟨outcome, rfl⟩ := finished index program running
            rw [Desk.memo_after]
            exact watched index _ running _ rfl trivial
      rw [current] at ended
      rcases ended with phase | phase
      · cases phase
      · cases phase
    rw [tidy.active, closed]
    rfl

end Runs

def readsPasswords : SandboxHandler := fun _ _ => do
  let _ ← @Task.await taskEffects _ _ (.worker (.getSessionHistory "session"))
  let allowed : Except JsError Unit ← @Task.await taskEffects _ _ (.assertPathAllowed "/etc/passwd")
  match allowed with
  | .ok _ => pure (.json (.string "read"))
  | .error error => throw error

def sandboxProcess : SandboxProcess where
  worker := ⟨"worker", true, fun _ _ => .returns (.json .null)⟩
  handler := readsPasswords
  cwd := "/srv"
  baseDir := "/tmp/workspace"

def sessionMessage (messageId : String) : MessageTask where
  command := .askAgent
    { header := { messageId := messageId, sessionId := "session", traceId := "trace" }
      content := .string "work"
      nonEmpty := Eq.refl true }
  options := {}

def sessionMessages : Fin 2 → MessageTask
  | 0 => sessionMessage "msg-left"
  | 1 => sessionMessage "msg-right"

def SandboxProcess.answer (process : SandboxProcess) (active : String) :
    (op : SandboxOp) → op.Reply × String
  | .task (.worker op) => ((redisAnswer .empty op).1, active)
  | .task (.assertPathAllowed filePath) => (assertPathAllowed process.cwd active filePath, active)
  | .setupWorkspace sessionId taskId =>
      (.ok ⟨privateWorkspace process.baseDir sessionId taskId⟩, active)
  | .getActiveWorkspace => (active, active)
  | .setActiveWorkspace workspace => ((), workspace)

theorem SandboxProcess.answer_serves (process : SandboxProcess) (active : String)
    (op : SandboxOp) :
    process.serve active op (process.answer active op).1 (process.answer active op).2 := by
  cases op with
  | task op =>
      cases op with
      | worker op => rfl
      | assertPathAllowed filePath => exact ⟨rfl, rfl⟩
  | setupWorkspace sessionId taskId =>
      refine ⟨rfl, ?_⟩
      intro paths same
      rw [← Except.ok.inj same]
  | getActiveWorkspace => exact ⟨rfl, rfl⟩
  | setActiveWorkspace workspace => rfl

def startedMessages : Config sandboxEffects String (Fin 2) MessageOutcome :=
  ⟨"", fun index => some (sandboxProcess.program (sessionMessages index))⟩

theorem messages_start :
    Runs (sandboxProcess.world sessionMessages) (fun _ _ => True) ⟨"", fun _ => none⟩
      [.start 0, .start 1] startedMessages := by
  have both : startedMessages.task = Function.update
      (Function.update (fun _ => none) 0 (some (sandboxProcess.program (sessionMessages 0)))) 1
        (some (sandboxProcess.program (sessionMessages 1))) := by
    funext index
    match index with
    | 0 => rfl
    | 1 => rfl
  have started : startedMessages = ⟨"", _⟩ := congrArg (Config.mk "") both
  rw [started]
  exact Runs.cons trivial (.start rfl ⟨rfl, rfl⟩)
    (Runs.cons trivial (.start rfl ⟨rfl, rfl⟩) .refl)

def messagesAfter (schedule : List (Fin 2)) : Config sandboxEffects String (Fin 2) MessageOutcome :=
  runSchedule sandboxProcess.answer startedMessages schedule

def messageEvents (schedule : List (Fin 2)) : List (Event sandboxEffects (Fin 2)) :=
  [.start formerTask, .start latterTask] ++
    scheduleEvents sandboxProcess.answer startedMessages schedule

theorem messages_run (schedule : List (Fin 2)) :
    Runs (sandboxProcess.world sessionMessages) (fun _ _ => True) ⟨"", fun _ => none⟩
      (messageEvents schedule) (messagesAfter schedule) := by
  have permitted : scheduleOk sandboxProcess.answer (fun _ _ => true) startedMessages schedule =
      true := by
    generalize startedMessages = config
    induction schedule generalizing config with
    | nil => rfl
    | cons index rest ih =>
        unfold scheduleOk
        split
        · simpa using ih _
        · exact ih config
  have moves := runSchedule_runs (sandboxProcess.world sessionMessages) sandboxProcess.answer
    sandboxProcess.answer_serves (fun _ _ => true) startedMessages schedule permitted
  exact messages_start.append (moves.mono fun _ _ _ => trivial)

def pathAskedFor (config : Config sandboxEffects String (Fin 2) MessageOutcome) (index : Fin 2) :
    Option String :=
  match config.task index with
  | some (.call (.task (.assertPathAllowed filePath)) _) => some filePath
  | _ => none

theorem step_of_asked {config : Config sandboxEffects String (Fin 2) MessageOutcome}
    {index : Fin 2} {filePath : String} (asked : pathAskedFor config index = some filePath) :
    ∃ next, Step (sandboxProcess.world sessionMessages) config
      (.issue index (.task (.assertPathAllowed filePath))
        (assertPathAllowed "/srv" config.state filePath)) next := by
  unfold pathAskedFor at asked
  split at asked
  · rename_i path resume found
    obtain rfl := Option.some.inj asked
    exact ⟨_, .issue found ⟨rfl, rfl⟩⟩
  · cases asked

def finished (config : Config sandboxEffects String (Fin 2) MessageOutcome) : Bool :=
  (List.finRange 2).all fun index => match config.task index with
    | some (.call _ _) => false
    | _ => true

theorem done_of_finished {config : Config sandboxEffects String (Fin 2) MessageOutcome}
    (ended : finished config = true) (index : Fin 2) (program : Prog sandboxEffects MessageOutcome)
    (running : config.task index = some program) : ∃ outcome, program = .done outcome := by
  have each := List.all_eq_true.mp ended index (List.mem_finRange index)
  cases program with
  | done outcome => exact ⟨outcome, rfl⟩
  | call op resume => simp [running] at each

/-- Whether an event is one that `Nested` lets pass. -/
def nestedCheck (past : List (Event sandboxEffects (Fin 2))) : Event sandboxEffects (Fin 2) → Bool
  | .issue index (.setActiveWorkspace _) _ =>
      decide ((Desk.after past).opened =
        if ((Desk.after past).memo index).phase = .current then
          index :: (Desk.after past).under index
        else (Desk.after past).under index)
  | .issue index (.task (.assertPathAllowed _)) _ =>
      decide ((Desk.after past).opened.head? = some index)
  | _ => true

theorem nestedCheck_sound (past : List (Event sandboxEffects (Fin 2)))
    (event : Event sandboxEffects (Fin 2)) (checked : nestedCheck past event = true) :
    Nested past event := by
  unfold Nested
  unfold nestedCheck at checked
  split
  · exact of_decide_eq_true checked
  · exact of_decide_eq_true checked
  · trivial

/-- The left message up to its question, the whole of the right one, and the rest of the left. -/
def leftFirst : List (Fin 2) := List.replicate 6 formerTask

def oneInTheOther : List (Fin 2) :=
  List.replicate 5 formerTask ++ List.replicate 30 latterTask ++ List.replicate 30 formerTask

theorem workspaces_isolated_nested :
    (messagesAfter leftFirst).state = "/tmp/workspace/session/private/msg-left" ∧
      (messagesAfter oneInTheOther).state = "" := by
  constructor
  · obtain ⟨next, step⟩ := @step_of_asked (messagesAfter leftFirst) 0 "/etc/passwd"
      (by decide +kernel)
    have nested := Meets.of_meets nestedCheck_sound
      (show meets nestedCheck [] (messageEvents leftFirst) = true by decide +kernel)
    have current : (Desk.after (messageEvents leftFirst)).opened.head? = some 0 := by
      decide +kernel
    obtain ⟨active, _⟩ := (workspaces_isolated rfl (fun _ => rfl) (messages_run leftFirst)
      nested).1 0 "/etc/passwd" _ next current step
    rw [active]
    decide +kernel
  · have nested := Meets.of_meets nestedCheck_sound
      (show meets nestedCheck [] (messageEvents oneInTheOther) = true by decide +kernel)
    have ended : finished (messagesAfter oneInTheOther) = true := by decide +kernel
    exact (workspaces_isolated rfl (fun _ => rfl) (messages_run oneInTheOther) nested).2
      (done_of_finished ended)

def overlapping : List (Fin 2) :=
  List.replicate 5 formerTask ++ List.replicate 5 latterTask ++ List.replicate 30 formerTask ++
    [latterTask]

/-- The right message is let read outside its workspace, and leaves the left one's behind. -/
theorem overlapping_messages_mixed :
    sandboxProcess.own (sessionMessages 0) ≠ sandboxProcess.own (sessionMessages 1) ∧
    (∃ events before filePath reply next,
      Runs (sandboxProcess.world sessionMessages) (fun _ _ => True) ⟨"", fun _ => none⟩ events
        before ∧
      Step (sandboxProcess.world sessionMessages) before
        (.issue 1 (.task (.assertPathAllowed filePath)) reply) next ∧
      reply ≠ assertPathAllowed "/srv" (sandboxProcess.own (sessionMessages 1)) filePath) ∧
    ∃ events last,
      Runs (sandboxProcess.world sessionMessages) (fun _ _ => True) ⟨"", fun _ => none⟩ events
        last ∧
      (∀ index program, last.task index = some program → ∃ outcome, program = .done outcome) ∧
      last.state ≠ "" := by
  refine ⟨by decide +kernel, ?_, ?_⟩
  · obtain ⟨next, step⟩ := @step_of_asked (messagesAfter overlapping) 1 "/etc/passwd"
      (by decide +kernel)
    refine ⟨_, _, "/etc/passwd", _, next, messages_run overlapping, step, ?_⟩
    have allowed : assertPathAllowed "/srv" (messagesAfter overlapping).state "/etc/passwd" =
        .ok () := by
      have inactive : (messagesAfter overlapping).state = "" := by decide +kernel
      rw [inactive]
      rfl
    have denied : assertPathAllowed "/srv" (sandboxProcess.own (sessionMessages 1))
        "/etc/passwd" = .error (pathDenied "/etc/passwd") := by
      decide +kernel
    rw [allowed, denied]
    nofun
  · refine ⟨_, _, messages_run (overlapping ++ List.replicate 30 1), ?_, ?_⟩
    · apply done_of_finished
      decide +kernel
    · decide +kernel

end ByFramework
