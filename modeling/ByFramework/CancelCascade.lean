import ByFramework.CancelCore

/-!
Which executions a cancellation reaches. The search keeps no set of those it has visited, so it
ends, and visits each one once, exactly when what it reaches is a tree.
-/

namespace ByFramework

/-- Below an execution, itself included, through the parent message of each record. -/
inductive Descends (allExecutions : List ExecutionRecord) (target : ExecutionRecord) :
    ExecutionRecord → Prop where
  | target : Descends allExecutions target target
  | child {parent child : ExecutionRecord} (above : Descends allExecutions target parent)
      (filed : child ∈ childrenOf allExecutions parent.messageId) :
      Descends allExecutions target child

theorem mem_childrenOf {allExecutions : List ExecutionRecord} {messageId : String}
    {child : ExecutionRecord} :
    child ∈ childrenOf allExecutions messageId ↔
      messageId ≠ "" ∧ child ∈ allExecutions ∧ child.parentMessageId = messageId := by
  unfold childrenOf
  by_cases blank : messageId = ""
  · simp [blank]
  · simp [blank]

/-- The search ends, and what it collects is every descendant of the target, once, told apart by
whether it has ended. -/
def CascadeExact (allExecutions : List ExecutionRecord) (target : ExecutionRecord) : Prop :=
  ∃ fuel subtree, collectSubtree allExecutions fuel [target] = some subtree ∧ subtree.Nodup ∧
    (∀ execution, execution ∈ subtree.filter (fun execution => isTerminalState execution.status) ↔
      Descends allExecutions target execution ∧ isTerminalState execution.status = true) ∧
    ∀ execution, execution ∈ subtree.filter (fun execution => !isTerminalState execution.status) ↔
      Descends allExecutions target execution ∧ isTerminalState execution.status = false

/-- No two executions that the search reaches share a message id under which another one is
filed, and none of them is the parent of the target. -/
structure TreeBelow (allExecutions : List ExecutionRecord) (target : ExecutionRecord) : Prop where
  root : ∀ execution, Descends allExecutions target execution →
    target.parentMessageId = execution.messageId → execution.messageId = ""
  single : ∀ first second child, Descends allExecutions target first →
    Descends allExecutions target second → first.messageId = second.messageId →
    child ∈ allExecutions → child.parentMessageId = first.messageId →
    first.messageId = "" ∨ first = second

section

variable {allExecutions : List ExecutionRecord} {target : ExecutionRecord}

/-! ### What the search leaves -/

theorem collectSubtree_eq {fuel : Nat} {queue subtree : List ExecutionRecord}
    (collected : collectSubtree allExecutions fuel queue = some subtree) :
    subtree = queue ++ subtree.flatMap fun execution =>
      childrenOf allExecutions execution.messageId := by
  induction fuel generalizing queue subtree with
  | zero =>
      cases queue with
      | nil =>
          simp only [collectSubtree, Option.some.injEq] at collected
          simp [← collected]
      | cons current queue => simp [collectSubtree] at collected
  | succ fuel ih =>
      cases queue with
      | nil =>
          simp only [collectSubtree, Option.some.injEq] at collected
          simp [← collected]
      | cons current queue =>
          simp only [collectSubtree, Option.map_eq_some_iff] at collected
          obtain ⟨rest, found, rfl⟩ := collected
          have later := ih found
          calc current :: rest
              = current :: ((queue ++ childrenOf allExecutions current.messageId) ++
                  rest.flatMap fun execution =>
                    childrenOf allExecutions execution.messageId) := by rw [← later]
            _ = _ := by simp

theorem collectSubtree_descends {fuel : Nat} {queue subtree : List ExecutionRecord}
    (collected : collectSubtree allExecutions fuel queue = some subtree)
    (below : ∀ execution ∈ queue, Descends allExecutions target execution) :
    ∀ execution ∈ subtree, Descends allExecutions target execution := by
  induction fuel generalizing queue subtree with
  | zero =>
      cases queue with
      | nil =>
          simp only [collectSubtree, Option.some.injEq] at collected
          simp [← collected]
      | cons current queue => simp [collectSubtree] at collected
  | succ fuel ih =>
      cases queue with
      | nil =>
          simp only [collectSubtree, Option.some.injEq] at collected
          simp [← collected]
      | cons current queue =>
          simp only [collectSubtree, Option.map_eq_some_iff] at collected
          obtain ⟨rest, found, rfl⟩ := collected
          have here : Descends allExecutions target current := below current (by simp)
          have further : ∀ execution ∈ rest, Descends allExecutions target execution := by
            apply ih found
            intro execution queued
            rcases List.mem_append.mp queued with waiting | child
            · exact below execution (List.mem_cons_of_mem _ waiting)
            · exact here.child child
          intro execution visited
          rcases List.mem_cons.mp visited with rfl | later
          · exact here
          · exact further execution later

theorem mem_collectSubtree {fuel : Nat} {subtree : List ExecutionRecord}
    (collected : collectSubtree allExecutions fuel [target] = some subtree)
    (execution : ExecutionRecord) :
    execution ∈ subtree ↔ Descends allExecutions target execution := by
  constructor
  · apply collectSubtree_descends collected
    intro first queued
    obtain rfl : first = target := by simpa using queued
    exact .target
  · intro below
    have visits := collectSubtree_eq collected
    induction below with
    | target =>
        rw [visits]
        simp
    | @child parent child above filed ih =>
        rw [visits]
        apply List.mem_append_right
        exact List.mem_flatMap.mpr ⟨parent, ih, filed⟩

/-! ### What makes it end -/

theorem TreeBelow.children_new (tree : TreeBelow allExecutions target)
    {done queue : List ExecutionRecord} {current child : ExecutionRecord}
    (below : ∀ execution ∈ done ++ current :: queue, Descends allExecutions target execution)
    (order : done ++ current :: queue = target :: done.flatMap fun execution =>
      childrenOf allExecutions execution.messageId)
    (once : (done ++ current :: queue).Nodup)
    (filed : child ∈ childrenOf allExecutions current.messageId) :
    child ∉ done ++ current :: queue := by
  intro seen
  have here : Descends allExecutions target current := below current (by simp)
  obtain ⟨named, listed, parent⟩ := mem_childrenOf.mp filed
  rw [order, List.mem_cons, List.mem_flatMap] at seen
  rcases seen with rfl | ⟨earlier, visited, filedEarlier⟩
  · exact named (tree.root current here parent)
  · obtain ⟨_, _, sameParent⟩ := mem_childrenOf.mp filedEarlier
    have above : Descends allExecutions target earlier :=
      below earlier (List.mem_append_left _ visited)
    have same : earlier.messageId = current.messageId := sameParent.symm.trans parent
    rcases tree.single earlier current child above here same listed sameParent with blank | rfl
    · exact named (same ▸ blank)
    · have apart := (List.nodup_append.mp once).2.2
      exact apart earlier visited earlier (by simp) rfl

theorem TreeBelow.collects (tree : TreeBelow allExecutions target)
    (distinct : allExecutions.Nodup) (fuel : Nat) (done queue : List ExecutionRecord)
    (below : ∀ execution ∈ done ++ queue, Descends allExecutions target execution)
    (known : ∀ execution ∈ done ++ queue, execution ∈ allExecutions)
    (order : done ++ queue = target :: done.flatMap fun execution =>
      childrenOf allExecutions execution.messageId)
    (once : (done ++ queue).Nodup) (enough : allExecutions.length ≤ done.length + fuel) :
    ∃ subtree, collectSubtree allExecutions fuel queue = some subtree ∧
      (done ++ subtree).Nodup := by
  induction fuel generalizing done queue with
  | zero =>
      cases queue with
      | nil => exact ⟨[], rfl, once⟩
      | cons current queue =>
          have bound : (done ++ current :: queue).length ≤ allExecutions.length :=
            (once.subperm known).length_le
          simp only [List.length_append, List.length_cons] at bound
          omega
  | succ fuel ih =>
      cases queue with
      | nil => exact ⟨[], rfl, once⟩
      | cons current queue =>
          have here : Descends allExecutions target current := below current (by simp)
          have moved (tail : List ExecutionRecord) :
              done ++ [current] ++ (queue ++ tail) = done ++ current :: queue ++ tail := by simp
          have children : (childrenOf allExecutions current.messageId).Nodup := by
            unfold childrenOf
            split
            · exact List.nodup_nil
            · exact distinct.filter _
          obtain ⟨rest, found, apart⟩ := ih (done ++ [current])
            (queue ++ childrenOf allExecutions current.messageId)
            (by
              rw [moved]
              intro execution listed
              rcases List.mem_append.mp listed with earlier | child
              · exact below execution earlier
              · exact here.child child)
            (by
              rw [moved]
              intro execution listed
              rcases List.mem_append.mp listed with earlier | child
              · exact known execution earlier
              · exact (mem_childrenOf.mp child).2.1)
            (by
              rw [moved, order]
              simp)
            (by
              rw [moved, List.nodup_append]
              refine ⟨once, children, ?_⟩
              rintro execution earlier _ child rfl
              exact tree.children_new below order once child earlier)
            (by
              simp only [List.length_append, List.length_cons, List.length_nil]
              omega)
          refine ⟨current :: rest, ?_, by simpa using apart⟩
          simp [collectSubtree, found]

/-- A cancellation reaches every execution below its target once, and comes to an end, exactly when
those executions form a tree. -/
theorem cascade_exact_iff (distinct : allExecutions.Nodup) (listed : target ∈ allExecutions) :
    CascadeExact allExecutions target ↔ TreeBelow allExecutions target := by
  constructor
  · rintro ⟨fuel, subtree, collected, once, _⟩
    have visits := collectSubtree_eq collected
    have reached := mem_collectSubtree collected
    have apart : (target :: subtree.flatMap fun execution =>
        childrenOf allExecutions execution.messageId).Nodup := by
      rw [visits] at once
      exact once
    obtain ⟨fresh, children⟩ := List.nodup_cons.mp apart
    constructor
    · intro execution below parent
      by_contra named
      apply fresh
      refine List.mem_flatMap.mpr ⟨execution, (reached execution).mpr below, ?_⟩
      exact mem_childrenOf.mpr ⟨named, listed, parent⟩
    · intro first second child belowFirst belowSecond same known parent
      by_contra neither
      rw [not_or] at neither
      have disjoint := (List.nodup_flatMap.mp children).2
      have filedFirst : child ∈ childrenOf allExecutions first.messageId :=
        mem_childrenOf.mpr ⟨neither.1, known, parent⟩
      have filedSecond : child ∈ childrenOf allExecutions second.messageId := by
        rw [← same]
        exact filedFirst
      have symmetric : Std.Symm (Function.onFun List.Disjoint fun execution : ExecutionRecord =>
          childrenOf allExecutions execution.messageId) :=
        ⟨fun _ _ apart => apart.symm⟩
      exact disjoint.forall ((reached first).mpr belowFirst) ((reached second).mpr belowSecond)
        neither.2 filedFirst filedSecond
  · intro tree
    obtain ⟨subtree, collected, once⟩ := tree.collects distinct allExecutions.length [] [target]
      (by
        intro execution queued
        obtain rfl : execution = target := by simpa using queued
        exact .target)
      (by
        intro execution queued
        obtain rfl : execution = target := by simpa using queued
        exact listed)
      (by simp) (by simp) (by simp)
    refine ⟨allExecutions.length, subtree, collected, once, ?_, ?_⟩
    · intro execution
      simp [mem_collectSubtree collected]
    · intro execution
      simp [mem_collectSubtree collected]

end

def calledExecution : ExecutionRecord :=
  { executionId := "exec-1", messageId := "msg-1", sessionId := "s", status := "RUNNING" }

def subTaskExecution : ExecutionRecord :=
  { executionId := "exec-2", messageId := "msg-2", parentMessageId := "msg-1", sessionId := "s",
    status := "RUNNING" }

/-- What the runner files for a reply that it cannot attribute: the message of the caller, under
the sub-task that replied. -/
def unattributedExecution : ExecutionRecord :=
  { executionId := "exec-3", messageId := "msg-1", parentMessageId := "msg-2", sessionId := "s",
    status := "RUNNING" }

theorem cascade_exact_of_call : CascadeExact [calledExecution, subTaskExecution] calledExecution ∧
    TreeBelow [calledExecution, subTaskExecution] calledExecution := by
  have tree : TreeBelow [calledExecution, subTaskExecution] calledExecution := by
    have reached (execution : ExecutionRecord)
        (below : Descends [calledExecution, subTaskExecution] calledExecution execution) :
        execution ∈ [calledExecution, subTaskExecution] := by
      cases below with
      | target => simp
      | child above filed => exact (mem_childrenOf.mp filed).2.1
    constructor
    · intro execution below parent
      rw [← parent]
      rfl
    · intro first second child belowFirst belowSecond same listed parent
      right
      have firstListed := reached first belowFirst
      have secondListed := reached second belowSecond
      simp only [List.mem_cons, List.not_mem_nil, or_false] at firstListed secondListed
      rcases firstListed with rfl | rfl <;> rcases secondListed with rfl | rfl
      · rfl
      · simp [calledExecution, subTaskExecution] at same
      · simp [calledExecution, subTaskExecution] at same
      · rfl
  exact ⟨(cascade_exact_iff (by decide) (by decide)).mpr tree, tree⟩

/-- Once such a reply is on record the cancellation of either message goes round for ever. -/
theorem cascade_not_exact :
    ¬CascadeExact [subTaskExecution, unattributedExecution] subTaskExecution := by
  have endless (fuel : Nat) :
      collectSubtree [subTaskExecution, unattributedExecution] fuel [subTaskExecution] = none ∧
      collectSubtree [subTaskExecution, unattributedExecution] fuel [unattributedExecution] =
        none := by
    induction fuel with
    | zero => exact ⟨rfl, rfl⟩
    | succ fuel ih =>
        have children : childrenOf [subTaskExecution, unattributedExecution]
            subTaskExecution.messageId = [unattributedExecution] := by decide
        have parents : childrenOf [subTaskExecution, unattributedExecution]
            unattributedExecution.messageId = [subTaskExecution] := by decide
        constructor
        · simp [collectSubtree, children, ih.2]
        · simp [collectSubtree, parents, ih.1]
  rintro ⟨fuel, subtree, collected, _⟩
  rw [(endless fuel).1] at collected
  cases collected

end ByFramework
