import ByFramework.LangfusePluginCore

/-!
However the hooks of the Langfuse plugin are called, each span it opened is ended once, unless the
plugin still holds it or lost it to a second start of the same execution.
-/

namespace ByFramework

open Collections

namespace LangfusePlugin

variable (handleId : Nat → SpanOpts → String) (plugin : LangfusePlugin)

/-! ### What the plugin holds -/

def ExecState.spans (state : ExecState) : List Nat := [state.taskSpan, state.workerSpan]

def held : List Nat :=
  plugin.execState.values.flatMap ExecState.spans ++ plugin.workflowSpans.values

def displaced : Hook → List Nat
  | .taskStart context =>
      if plugin.client.isSome then
        ((plugin.execState.get? context.langfuseExecutionId).map ExecState.spans).getD []
      else []
  | _ => []

/-- All the spans that the calls put out of the plugin's reach. -/
def lost : LangfusePlugin → List Hook → List Nat
  | _, [] => []
  | plugin, hook :: later => plugin.displaced hook ++ lost (plugin.call handleId hook) later

/-- A span that is not a workflow's hangs below the handle of one that was opened before it. -/
def Rooted (spans : Ledger SpanOpts EndOpts) : Prop :=
  ∀ handle opts, spans.opening handle = some opts →
    (∃ agentType, opts.name = "agent.workflow:" ++ agentType) ∨
      ∃ above < handle, ∃ parent, spans.opening above = some parent ∧
        opts.parentObservationId = some (handleId above parent)

structure Accounted (gone : List Nat) : Prop where
  inOrder : plugin.spans.InOrder (plugin.held ++ gone)
  rooted : Rooted handleId plugin.spans

variable {handleId : Nat → SpanOpts → String} {plugin : LangfusePlugin} {gone : List Nat}

theorem Rooted.enter {spans : Ledger SpanOpts EndOpts} (rooted : Rooted handleId spans)
    {opts : SpanOpts}
    (below : (∃ agentType, opts.name = "agent.workflow:" ++ agentType) ∨
      ∃ above < spans.size, ∃ parent, spans.opening above = some parent ∧
        opts.parentObservationId = some (handleId above parent)) :
    Rooted handleId (spans.enter opts) := by
  have kept : ∀ {above : Nat}, above < spans.size →
      (spans.enter opts).opening above = spans.opening above := by
    intro above early
    rw [Ledger.opening_enter, if_neg (Nat.ne_of_lt early)]
  intro handle found opened
  rw [Ledger.opening_enter] at opened
  split at opened
  · rename_i last
    cases opened
    subst last
    rcases below with workflow | ⟨above, early, parent, known, named⟩
    · exact .inl workflow
    · exact .inr ⟨above, early, parent, (kept early).trans known, named⟩
  · rcases rooted handle found opened with workflow | ⟨above, before, parent, known, named⟩
    · exact .inl workflow
    · have early : above < spans.size := Ledger.lt_size_of_opening known
      exact .inr ⟨above, before, parent, (kept early).trans known, named⟩

theorem Rooted.close {spans : Ledger SpanOpts EndOpts} (rooted : Rooted handleId spans)
    (handle : Nat) (opts : EndOpts) : Rooted handleId (spans.close handle opts) := by
  intro other found opened
  simp only [Ledger.opening_close] at opened ⊢
  exact rooted other found opened

theorem spanId_of_lt {handle : Nat} (known : handle < plugin.spans.size) :
    ∃ parent, plugin.spans.opening handle = some parent ∧
      some (plugin.spanId handleId handle) = some (handleId handle parent) := by
  obtain ⟨parent, opened⟩ := Ledger.opening_of_lt known
  exact ⟨parent, opened, by simp [spanId, opened]⟩

theorem Accounted.workflowSpan (before : plugin.Accounted handleId gone) (context : AgentContext) :
    (plugin.workflowSpan context).2.Accounted handleId gone ∧
      (plugin.workflowSpan context).1 < (plugin.workflowSpan context).2.spans.size := by
  unfold LangfusePlugin.workflowSpan
  split
  · rename_i handle found
    have listed : handle ∈ plugin.workflowSpans.values :=
      List.mem_map_of_mem (InsertionMap.mem_of_get? found)
    exact ⟨before, before.inOrder.known handle (by simp [held, listed])⟩
  · rename_i absent
    refine ⟨⟨?_, before.rooted.enter (.inl ⟨_, rfl⟩)⟩, by simp [openSpan]⟩
    refine (before.inOrder.enter context.workflowSpanOpts).perm (List.perm_iff_count.mpr ?_)
    intro handle
    simp only [held, openSpan, InsertionMap.values_set_absent _ absent, List.count_append,
      List.count_cons, List.count_nil]
    omega

theorem Accounted.openExecution (before : plugin.Accounted handleId gone) {workflowHandle : Nat}
    (known : workflowHandle < plugin.spans.size) (context : AgentContext) :
    (plugin.openExecution handleId workflowHandle context).Accounted handleId
      (gone ++ ((plugin.execState.get? context.langfuseExecutionId).map ExecState.spans).getD [])
    := by
  have worker : Rooted handleId (plugin.openSpan
      (context.workerSpanOpts (plugin.spanId handleId workflowHandle))).spans :=
    before.rooted.enter (.inr ⟨workflowHandle, known, spanId_of_lt known⟩)
  refine ⟨?_, worker.enter (.inr ⟨plugin.spans.size, by simp [openSpan],
    spanId_of_lt (by simp [openSpan])⟩)⟩
  refine ((before.inOrder.enter _).enter _).perm (List.perm_iff_count.mpr ?_)
  intro handle
  cases found : plugin.execState.get? context.langfuseExecutionId with
  | none =>
      simp only [LangfusePlugin.openExecution, held, openSpan,
        InsertionMap.values_set_absent _ found, List.flatMap_append, List.flatMap_cons,
        List.flatMap_nil, ExecState.spans, List.count_append, List.count_cons, List.count_nil,
        Option.map_none, Option.getD_none, Ledger.size_enter]
      omega
  | some old =>
      have added := ((InsertionMap.values_set_perm
        (ExecState.mk plugin.spans.size (plugin.spans.size + 1) context.langfuseWorkflowKey)
        found).flatMap_right ExecState.spans).count_eq handle
      have removed := ((InsertionMap.values_delete_perm found).flatMap_right
        ExecState.spans).count_eq handle
      simp only [List.flatMap_cons, List.count_append] at added removed
      simp only [LangfusePlugin.openExecution, held, openSpan, List.count_append, Option.map_some,
        Option.getD_some, Ledger.size_enter, added, removed, ExecState.spans, List.count_cons,
        List.count_nil]
      omega

theorem Accounted.endWorkflow (before : plugin.Accounted handleId gone) (workflowKey : String)
    (opts : EndOpts) : (plugin.endWorkflow workflowKey opts).Accounted handleId gone := by
  unfold LangfusePlugin.endWorkflow
  split
  · exact before
  · rename_i handle found
    refine ⟨Ledger.InOrder.close (before.inOrder.perm (List.perm_iff_count.mpr ?_)) opts,
      before.rooted.close handle opts⟩
    intro other
    have removed := (InsertionMap.values_delete_perm found).count_eq other
    simp only [held, endSpan, List.count_append, List.count_cons, removed]
    omega

theorem Accounted.endTask (before : plugin.Accounted handleId gone) (context : AgentContext)
    (opts : EndOpts) (workflowEnds : Bool) :
    (plugin.endTask context opts workflowEnds).Accounted handleId gone := by
  unfold LangfusePlugin.endTask
  split
  · exact before
  · rename_i state found
    have ended : ((({ plugin with
        execState := plugin.execState.delete context.langfuseExecutionId }).endSpan state.taskSpan
          opts).endSpan state.workerSpan opts).Accounted handleId gone := by
      refine ⟨Ledger.InOrder.close (Ledger.InOrder.close
        (before.inOrder.perm (List.perm_iff_count.mpr ?_)) opts) opts,
          (before.rooted.close _ opts).close _ opts⟩
      intro other
      have removed := ((InsertionMap.values_delete_perm found).flatMap_right
        ExecState.spans).count_eq other
      simp only [List.flatMap_cons, List.count_append, ExecState.spans, List.count_cons,
        List.count_nil] at removed
      simp only [held, endSpan, List.count_append, List.count_cons, removed]
      omega
    split
    · exact ended.endWorkflow state.workflowKey opts
    · exact ended

theorem Accounted.call (before : plugin.Accounted handleId gone) (hook : Hook) :
    (plugin.call handleId hook).Accounted handleId (gone ++ plugin.displaced hook) := by
  cases hook with
  | workerStartup env packageInstalled =>
      simp only [displaced, List.append_nil]
      simp only [LangfusePlugin.call, onWorkerStartup]
      split
      · exact before
      · split
        · exact ⟨before.inOrder, before.rooted⟩
        · exact before
  | workerShutdown =>
      simp only [displaced, List.append_nil]
      exact ⟨before.inOrder, before.rooted⟩
  | taskStart context =>
      simp only [LangfusePlugin.call, onTaskStart, displaced]
      cases client : plugin.client with
      | none => simpa using before
      | some config =>
          obtain ⟨workflow, known⟩ := before.workflowSpan context
          have same : (plugin.workflowSpan context).2.execState = plugin.execState := by
            unfold LangfusePlugin.workflowSpan
            split <;> rfl
          have opened := workflow.openExecution known context
          rw [same] at opened
          simpa using opened
  | taskComplete context result =>
      simp only [displaced, List.append_nil]
      exact before.endTask context _ _
  | taskError context message errorType =>
      simp only [displaced, List.append_nil]
      exact before.endTask context _ _
  | taskCancel context =>
      simp only [displaced, List.append_nil]
      exact before.endTask context _ _

theorem Accounted.run (hooks : List Hook) : ∀ {plugin : LangfusePlugin} {gone : List Nat},
    plugin.Accounted handleId gone → (plugin.run handleId hooks).Accounted handleId
      (gone ++ plugin.lost handleId hooks) := by
  induction hooks with
  | nil =>
      intro plugin gone before
      simpa [LangfusePlugin.run, lost] using before
  | cons hook later ih =>
      intro plugin gone before
      have after := ih (before.call hook)
      rw [List.append_assoc] at after
      exact after

end LangfusePlugin

/--
However the hooks are called, the spans the plugin opened fall apart in those it still holds, those
it lost to a second start of an execution that had not ended, and the others: the others were
ended once, and of the first none was. No span but a workflow's is without a parent.
-/
theorem spans_accounted (handleId : Nat → SpanOpts → String) (hooks : List LangfusePlugin.Hook) :
    (LangfusePlugin.run handleId {} hooks).spans.InOrder
        ((LangfusePlugin.run handleId {} hooks).held ++ LangfusePlugin.lost handleId {} hooks) ∧
      LangfusePlugin.Rooted handleId (LangfusePlugin.run handleId {} hooks).spans := by
  have fresh : ({} : LangfusePlugin).Accounted handleId [] :=
    ⟨Ledger.InOrder.empty, fun handle opts opened => by cases opened⟩
  have accounted := fresh.run hooks
  exact ⟨accounted.inOrder, accounted.rooted⟩

end ByFramework
