import CallLog.Action

/-!
# Tasks

A task is an action that may pause. While it pauses, other tasks may run and change the state; then
it goes on with the state as it is. `Task.run` runs a task by itself, so that nothing happens during
its pauses.

The main statement is `run_bind`: run by itself, a task does one after the other what its parts do.
-/

namespace CallLog

/-- How far a task has come: to its end, or to a pause. -/
inductive Progress (σ α : Type) where
  | done (outcome : Except Raised α) (s : σ)
  | paused (s : σ) (rest : σ → Progress σ α)

namespace Progress

variable {σ α β : Type}

/-- Goes on with the outcome when a task has come to its end. -/
def andThen (f : Except Raised α → σ → Progress σ β) : Progress σ α → Progress σ β
  | done outcome s => f outcome s
  | paused s rest => paused s fun s => (rest s).andThen f

/-- Runs a task to its end. -/
def run : Progress σ α → Except Raised α × σ
  | done outcome s => (outcome, s)
  | paused s rest => (rest s).run

theorem run_andThen (f : Except Raised α → σ → Progress σ β) (p : Progress σ α) :
    (p.andThen f).run = (f p.run.1 p.run.2).run := by
  induction p with
  | done outcome s => rfl
  | paused s rest ih => exact ih s

end Progress

/-- An action that may pause. -/
def Task (σ α : Type) := σ → Progress σ α

namespace Task

variable {σ α β : Type}

/-- An action as a task without pauses. -/
def ofAction (x : Action σ α) : Task σ α :=
  fun s =>
    let (outcome, s) := x s
    .done outcome s

/-- Goes on with the outcome of a task. -/
def andThen (x : Task σ α) (f : Except Raised α → Task σ β) : Task σ β :=
  fun s => (x s).andThen f

/-- Goes on with the result of a task; what the task raises ends it all. -/
def bind (x : Task σ α) (f : α → Task σ β) : Task σ β :=
  x.andThen fun
    | .ok a => f a
    | .error r => fun s => .done (.error r) s

instance : Monad (Task σ) where
  pure a := fun s => .done (.ok a) s
  bind := bind

instance : MonadLift (Action σ) (Task σ) where
  monadLift := ofAction

instance : Inhabited (Task σ α) :=
  ⟨fun s => .done (.error (.fault .callDepth)) s⟩

/-- Lets other tasks run. -/
def pause : Task σ Unit :=
  fun s => .paused s fun s => .done (.ok ()) s

/-- Ends a task by raising. -/
def raise (r : Raised) : Task σ α :=
  fun s => .done (.error r) s

/-- Ends a task by a fault. -/
def fault (f : Fault) : Task σ α :=
  raise (.fault f)

/-- A task whose result is the outcome of another one. -/
def attempt (x : Task σ α) : Task σ (Except Raised α) :=
  x.andThen fun outcome s => .done (.ok outcome) s

/-- A task that applies a function to the state at the end, whatever the outcome. -/
def always (x : Task σ α) (last : σ → σ) : Task σ α :=
  x.andThen fun outcome s => .done outcome (last s)

/-- Runs a task by itself. -/
def run (x : Task σ α) : Action σ α :=
  fun s => (x s).run

@[simp]
theorem run_ofAction (x : Action σ α) : (ofAction x).run = x :=
  rfl

@[simp]
theorem run_pure (a : α) : (pure a : Task σ α).run = pure a :=
  rfl

@[simp]
theorem run_raise (r : Raised) : (raise r : Task σ α).run = Action.raise r :=
  rfl

@[simp]
theorem run_pause : (pause : Task σ Unit).run = pure () :=
  rfl

@[simp]
theorem run_attempt (x : Task σ α) : x.attempt.run = Action.attempt x.run :=
  funext fun s => Progress.run_andThen _ (x s)

@[simp]
theorem run_always (x : Task σ α) (last : σ → σ) : (x.always last).run = x.run.always last :=
  funext fun s => Progress.run_andThen _ (x s)

@[simp]
theorem run_bind (x : Task σ α) (f : α → Task σ β) :
    (x >>= f).run = x.run >>= fun a => (f a).run := by
  funext s
  refine (Progress.run_andThen _ (x s)).trans ?_
  change _ = ExceptT.bindCont (fun a => (f a).run) (x s).run.1 (x s).run.2
  rcases (x s).run with ⟨_ | _, _⟩ <;> rfl

end Task

end CallLog
