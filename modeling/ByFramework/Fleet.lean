import ByFramework.FleetCore
import ByFramework.Runner

/-! Rules for the tasks of a fleet that are watched, and what a command does to a fleet. -/

namespace ByFramework

open Async

section Watched

variable {σ α Memo : Type} {watch : Watch effects Memo} {memory : σ} {memo : Memo}

theorem wp_redis_watched {command : RedisCommand}
    {post : Except JsError command.Reply → σ → Memo → Prop}
    (allowed : watch.allow memo (.redis command))
    (holds : ∀ reply, watch.expect memo (.redis command) reply →
      post (Except.mapError redisError reply) memory (watch.note memo (.redis command) reply)) :
    (redis command : Proc σ _).wp watch.setting post memory memo := by
  refine wp_redis ?_
  rintro later rfl -
  refine ⟨allowed, ?_⟩
  rintro reply after ⟨expected, rfl⟩ - last rfl -
  exact holds reply expected

theorem wp_await_watched {op : Op} {post : Except JsError op.Reply → σ → Memo → Prop}
    (allowed : watch.allow memo op)
    (holds : ∀ reply, watch.expect memo op reply →
      post (.ok reply) memory (watch.note memo op reply)) :
    (await op : Proc σ _).wp watch.setting post memory memo := by
  refine Task.wp_alone_issue allowed ?_
  rintro reply after ⟨expected, rfl⟩
  exact holds reply expected

theorem wp_of_uses_watched {task : Proc σ α} {contract : Contract effects} {inv : σ → Prop}
    (fact : Memo → Prop) (uses : task.Uses contract inv)
    (kept : ∀ memo op, fact memo → contract.allowed op → watch.allow memo op ∧
      ∀ reply, watch.expect memo op reply → contract.expected op reply ∧
        fact (watch.note memo op reply))
    (held : inv memory) (holds : fact memo) :
    task.wp watch.setting (fun _ after later => inv after ∧ fact later) memory memo := by
  refine Task.wp_of_uses ?_ ?_ uses held holds
  · rintro before _ current rfl -
    exact current
  · intro before op current _ permitted
    obtain ⟨allowed, served⟩ := kept before op current permitted
    refine ⟨allowed, ?_⟩
    rintro reply after ⟨expected, rfl⟩ -
    exact served reply expected

theorem wp_toEnd {task : Proc σ α} {post : Unit → Memo → Prop}
    (holds : task.wp watch.setting (fun _ _ memo => post () memo) memory memo) :
    (toEnd task memory).wp watch.setting post memo := by
  refine Prog.wp_bind (Prog.wp_mono holds ?_) trivial
  rintro outcome later - meets _ rfl -
  exact meets

end Watched

def Fleet.still : Setting effects Fleet := .alone (Fleet.serve fun _ => False)

section Still

variable {σ : Type} {memory : σ} {fleet : Fleet}

theorem wp_redis_still {command : RedisCommand}
    {post : Except JsError command.Reply → σ → Fleet → Prop}
    (holds : post ((fleet.store.exec command).1.mapError redisError) memory
      { fleet with store := (fleet.store.exec command).2 }) :
    (redis command : Proc σ _).wp Fleet.still post memory fleet := by
  refine wp_redis ?_
  rintro later rfl -
  refine ⟨trivial, ?_⟩
  rintro reply ⟨store, process⟩ (⟨done, same⟩ | ⟨⟨⟩, _⟩) - last rfl -
  obtain rfl : process = fleet.process := same
  rw [done] at holds
  exact holds

end Still

namespace Fleet

variable {mayFail : RedisCommand → Prop} {fleet after : Fleet}

theorem serve_redis {command : RedisCommand} {reply : Except String command.Reply}
    (served : fleet.serve mayFail (.redis command) reply after) :
    after.process = fleet.process ∧
      ((fleet.store.exec command = (reply, after.store)) ∨
        (∃ message, reply = .error message) ∧
          (after.store = fleet.store ∨ after.store = (fleet.store.exec command).2)) := by
  rcases served with ⟨done, same⟩ | ⟨_, failed, same, either⟩
  · exact ⟨same, .inl done⟩
  · exact ⟨same, .inr ⟨failed, either⟩⟩

theorem serve_ok {command : RedisCommand} {value : command.Reply}
    (served : fleet.serve mayFail (.redis command) (.ok value) after) :
    fleet.store.exec command = (.ok value, after.store) := by
  rcases (serve_redis served).2 with done | ⟨⟨message, failed⟩, _⟩
  · exact done
  · cases failed

theorem serve_store (fact : RedisStore → Prop) {command : RedisCommand}
    {reply : Except String command.Reply} (served : fleet.serve mayFail (.redis command) reply after)
    (holds : fact fleet.store) (kept : fact (fleet.store.exec command).2) : fact after.store := by
  rcases (serve_redis served).2 with done | ⟨_, same | done⟩
  · rw [done] at kept
    exact kept
  · rw [same]
    exact holds
  · rw [done]
    exact kept

theorem serve_other {op : Op} {reply : op.Reply} (served : fleet.serve mayFail op reply after)
    (other : ∀ command, op ≠ .redis command) : after.store = fleet.store := by
  cases op with
  | redis command => exact absurd rfl (other command)
  | process workerId request =>
      obtain ⟨_, rfl⟩ := served
      rfl
  | _ =>
      obtain rfl := served
      rfl

end Fleet

end ByFramework
