import ByFramework.Async.Watch

/-!
Runs that are computed: tasks start, move and stop in a given order, and time passes between.
-/

namespace Async

inductive Move (ι L : Type) where
  | start (index : ι)
  | go (index : ι)
  | stop (index : ι)
  | pass (label : L)

def Move.turn {ι L : Type} (index : ι) (steps : Nat) : List (Move ι L) :=
  .start index :: List.replicate steps (.go index)

structure Player (sig : Signature) (State ι ρ L : Type) where
  answer : State → (op : sig.Op) → sig.Reply op × State
  program : ι → Prog sig ρ
  begins : State → ι → Option State
  pass : State → L → State

namespace Player

variable {sig : Signature} {State ι ρ L : Type} [DecidableEq ι]

def move (player : Player sig State ι ρ L) (config : Config sig State ι ρ) :
    Move ι L → Option (Event sig ι × Config sig State ι ρ)
  | .start index =>
      match config.task index, player.begins config.state index with
      | none, some after => some (.start index,
          ⟨after, Function.update config.task index (some (player.program index))⟩)
      | _, _ => none
  | .go index =>
      match config.task index with
      | some (.call op resume) =>
          let served := player.answer config.state op
          some (.issue index op served.1,
            ⟨served.2, Function.update config.task index (some (resume served.1))⟩)
      | _ => none
  | .stop index =>
      match config.task index with
      | some _ => some (.stop index, ⟨config.state, Function.update config.task index none⟩)
      | none => none
  | .pass label => some (.lapse, ⟨player.pass config.state label, config.task⟩)

def play (player : Player sig State ι ρ L) :
    Config sig State ι ρ → List (Move ι L) → List (Event sig ι) × Config sig State ι ρ
  | config, [] => ([], config)
  | config, first :: rest =>
      match player.move config first with
      | none => player.play config rest
      | some (event, next) =>
          let played := player.play next rest
          (event :: played.1, played.2)

structure Plays (player : Player sig State ι ρ L) (world : World sig State ι ρ) : Prop where
  serve : ∀ state op, world.serve state op (player.answer state op).1 (player.answer state op).2
  start : ∀ state index after, player.begins state index = some after →
    world.start state index (player.program index) after
  stop : ∀ state index program, world.stop state index program state
  lapse : ∀ state label, world.lapse state (player.pass state label)

theorem Plays.step {player : Player sig State ι ρ L} {world : World sig State ι ρ}
    (plays : player.Plays world) {config next : Config sig State ι ρ} {move : Move ι L}
    {event : Event sig ι} (made : player.move config move = some (event, next)) :
    Step world config event next := by
  cases move with
  | start index =>
      simp only [Player.move] at made
      split at made
      · rename_i after free begun
        cases made
        exact .start free (plays.start _ _ _ begun)
      · cases made
  | go index =>
      simp only [Player.move] at made
      split at made
      · rename_i op resume found
        cases made
        exact .issue found (plays.serve _ _)
      · cases made
  | stop index =>
      simp only [Player.move] at made
      split at made
      · rename_i program found
        cases made
        exact .stop found (plays.stop _ _ _)
      · cases made
  | pass label =>
      cases made
      exact .lapse (plays.lapse _ _)

def after (player : Player sig State ι ρ L) (config : Config sig State ι ρ) (move : Move ι L) :
    Config sig State ι ρ :=
  ((player.move config move).map Prod.snd).getD config

theorem Plays.goes {player : Player sig State ι ρ L} {world : World sig State ι ρ}
    (plays : player.Plays world) {config : Config sig State ι ρ} {index : ι}
    (goes : (player.move config (.go index)).isSome = true) :
    ∃ op reply, Step world config (.issue index op reply) (player.after config (.go index)) := by
  unfold after
  simp only [Player.move] at goes ⊢
  split
  · rename_i op resume found
    exact ⟨op, _, .issue found (plays.serve _ _)⟩
  · rename_i stuck
    split at goes
    · rename_i op resume found
      exact (stuck op resume found).elim
    · cases goes

theorem Plays.runs {player : Player sig State ι ρ L} {world : World sig State ι ρ}
    (plays : player.Plays world) (config : Config sig State ι ρ) (moves : List (Move ι L)) :
    Runs world (fun _ _ => True) config (player.play config moves).1
      (player.play config moves).2 := by
  induction moves generalizing config with
  | nil => exact .refl
  | cons first rest ih =>
      unfold play
      split
      · exact ih config
      · rename_i event next made
        exact Runs.cons trivial (plays.step made) (ih next)

def minds (player : Player sig State ι ρ L) (check : Config sig State ι ρ → Event sig ι → Bool) :
    Config sig State ι ρ → List (Move ι L) → Bool
  | _, [] => true
  | config, first :: rest =>
      match player.move config first with
      | none => player.minds check config rest
      | some (event, next) => check config event && player.minds check next rest

theorem Plays.runs_minding {player : Player sig State ι ρ L} {world : World sig State ι ρ}
    (plays : player.Plays world) {permits : Config sig State ι ρ → Event sig ι → Prop}
    {check : Config sig State ι ρ → Event sig ι → Bool}
    (sound : ∀ config event, check config event = true → permits config event)
    (config : Config sig State ι ρ) (moves : List (Move ι L))
    (minds : player.minds check config moves = true) :
    Runs world permits config (player.play config moves).1 (player.play config moves).2 := by
  induction moves generalizing config with
  | nil => exact .refl
  | cons first rest ih =>
      unfold play
      simp only [Player.minds] at minds
      split
      · rename_i stuck
        simp only [stuck] at minds
        exact ih config minds
      · rename_i event next made
        simp only [made, Bool.and_eq_true] at minds
        exact Runs.cons (sound config event minds.1) (plays.step made) (ih next minds.2)

end Player

end Async
