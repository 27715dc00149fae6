import ByFramework.Async.Footprint
import ByFramework.Async.Watch

/-! Programs over some operations, run as part of programs that have more. -/

namespace Async

/-- Where each operation is found among others, and what it makes of the replies there. -/
structure Embedding (inner outer : Signature) where
  op : inner.Op → outer.Op
  reply : (found : inner.Op) → outer.Reply (op found) → inner.Reply found

variable {inner outer : Signature} {ε σ α β : Type}

def Prog.embed (embedding : Embedding inner outer) : Prog inner α → Prog outer α
  | .done value => .done value
  | .call op resume =>
      .call (embedding.op op) fun reply => (resume (embedding.reply op reply)).embed embedding

theorem Prog.uses_embed {embedding : Embedding inner outer} {contract : Contract outer}
    (permitted : ∀ op, contract.allowed (embedding.op op)) (program : Prog inner α) :
    (program.embed embedding).Uses contract := by
  induction program with
  | done value => trivial
  | call op resume ih => exact ⟨permitted op, fun reply _ => ih (embedding.reply op reply)⟩

namespace Task

def embed (embedding : Embedding inner outer) (task : Task inner ε σ α) : Task outer ε σ α :=
  ExceptT.mk fun memory => (start task memory).embed embedding

theorem uses_embed {embedding : Embedding inner outer} {contract : Contract outer}
    (permitted : ∀ op, contract.allowed (embedding.op op)) (task : Task inner ε σ α) :
    Uses contract (fun _ => True) (embed embedding task) := by
  intro memory _
  exact Prog.Uses.mono (Prog.uses_embed permitted (start task memory)) (fun _ same => same)
    (fun _ _ same => same) fun _ _ => trivial

theorem wp_embed_watched {Memo : Type} {watch : Watch outer Memo}
    {embedding : Embedding inner outer} (task : Task inner ε σ α) {memory : σ} {memo : Memo}
    (neutral : ∀ op, watch.allow memo (embedding.op op) ∧
      ∀ reply, watch.note memo (embedding.op op) reply = memo) :
    (embed embedding task).wp watch.setting (fun _ _ later => later = memo) memory memo := by
  have uses : Uses (.only fun op => ∃ found, op = embedding.op found) (fun _ => True)
      (embed embedding task) := by
    apply uses_embed
    intro op
    exact ⟨op, rfl⟩
  have kept : (embed embedding task).wp watch.setting
      (fun _ _ later => True ∧ later = memo) memory memo := by
    refine wp_of_uses ?_ ?_ uses trivial (show (fun later => later = memo) memo from rfl)
    · rintro before _ same rfl -
      exact same
    · rintro before op rfl - ⟨found, rfl⟩
      refine ⟨(neutral found).1, ?_⟩
      rintro reply after ⟨_, rfl⟩ -
      exact ⟨trivial, (neutral found).2 reply⟩
  exact wp_mono kept fun outcome after later _ same => same.2

end Task

end Async
