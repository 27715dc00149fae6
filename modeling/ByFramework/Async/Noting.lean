import ByFramework.Async.Footprint

/-! Surroundings that keep a note of what a program issues, for statements about its phases. -/

namespace Async

variable {sig : Signature} {State Note α : Type}

def noting (note : Note → sig.Op → Note)
    (serve : State → (op : sig.Op) → sig.Reply op → State → Prop) :
    State × Note → (op : sig.Op) → sig.Reply op → State × Note → Prop :=
  fun before op reply after =>
    serve before.1 op reply after.1 ∧ after.2 = note before.2 op

namespace Prog

variable {note : Note → sig.Op → Note}
  {serve : State → (op : sig.Op) → sig.Reply op → State → Prop}

theorem ends_noting_iff {program : Prog sig α} {before after : State} {value : α} {first : Note} :
    Ends serve program before value after ↔
      ∃ last, Ends (noting note serve) program (before, first) value (after, last) := by
  constructor
  · intro ends
    induction ends generalizing first with
    | done => exact ⟨first, .done⟩
    | @call op _ _ _ _ _ _ served _ ih =>
        obtain ⟨last, rest⟩ := @ih (note first op)
        exact ⟨last, .call ⟨served, rfl⟩ rest⟩
  · rintro ⟨last, ends⟩
    induction program generalizing before first with
    | done value =>
        cases ends
        exact .done
    | call op resume ih =>
        cases ends with
        | call served rest => exact .call served.1 (ih _ rest)

theorem wp_noting {wide : State → (op : sig.Op) → sig.Reply op → State → Prop}
    {allow : State × Note → sig.Op → Prop} {permitted : sig.Op → Prop} {program : Prog sig α}
    {post : α → State → Prop} {state : State} {kept : Note}
    (holds : program.wp (.alone wide) post state) (uses : program.Uses (.only permitted))
    (narrows : ∀ state op reply after, serve state op reply after → wide state op reply after)
    (quiet : ∀ state op, permitted op → allow (state, kept) op ∧ note kept op = kept) :
    program.wp (.alone (noting note serve) allow)
      (fun value later => post value later.1 ∧ later.2 = kept) (state, kept) := by
  induction program generalizing state with
  | done value =>
      rintro _ rfl -
      exact ⟨holds state rfl trivial, rfl⟩
  | call op resume ih =>
      rintro _ rfl -
      obtain ⟨-, continues⟩ := holds state rfl trivial
      obtain ⟨allowed, unnoted⟩ := quiet state op uses.1
      refine ⟨allowed, ?_⟩
      rintro reply ⟨after, noted⟩ ⟨served, rfl⟩ -
      dsimp only at served ⊢
      rw [unnoted]
      exact ih reply (continues reply after (narrows _ _ _ _ served) trivial)
        (uses.2 reply trivial)

end Prog

end Async
