import CallLog.Task

/-!
# Tasks side by side

Some tasks run in turns: in each round every task that has not ended runs up to its next pause. A
part of the state is each task's own: it begins with what is there at the start, finds there what it
left, and the others do not see it. What a task raises is its outcome and does not touch the others;
only an interrupt ends them all.
-/

namespace CallLog

namespace Task

/-- A task among others: it waits for its turn with its own part of the state, or it has ended. -/
inductive Strand (σ κ α : Type) where
  | waiting (own : κ) (rest : Task σ α)
  | ended (outcome : Except Raised α)

/-- Whether what a task raises ends the tasks beside it as well. -/
def isInterrupt (r : Raised) : Bool :=
  r.kind.derivesFrom .keyboardInterrupt || r.kind.derivesFrom .systemExit

variable {σ κ α : Type}

/-- The outcome of a task beside others; an interrupt is raised. -/
def settle : Except Raised α → Action σ (Except Raised α)
  | .ok a => pure (.ok a)
  | .error r => if isInterrupt r then Action.raise r else pure (.error r)

namespace Strand

/-- Whether a task has ended. -/
def isEnded : Strand σ κ α → Bool
  | waiting .. => false
  | ended _ => true

/-- Lets a task run up to its next pause. -/
def turn (part : Part σ κ) : Strand σ κ α → Action σ (Strand σ κ α)
  | ended outcome => pure (ended outcome)
  | waiting own rest => fun s =>
    match rest (part.write own s) with
    | .done outcome s => (ended <$> settle outcome : Action σ (Strand σ κ α)) s
    | .paused s rest => (.ok (waiting (part.read s) rest), s)

/-- The outcome of a task, which runs to its end if it has not ended. -/
def finish (part : Part σ κ) : Strand σ κ α → Action σ (Except Raised α)
  | ended outcome => pure outcome
  | waiting own rest => do
    part.update fun _ => own
    settle (← Action.attempt rest.run)

end Strand

/-- The outcomes of some tasks after at most the given number of rounds; then each that has not
ended runs to its end. -/
def rounds (part : Part σ κ) : Nat → List (Strand σ κ α) → Action σ (List (Except Raised α))
  | 0, strands => strands.mapM (Strand.finish part)
  | n + 1, strands =>
    if strands.all Strand.isEnded then strands.mapM (Strand.finish part)
    else do rounds part n (← strands.mapM (Strand.turn part))

/-- More rounds than tasks pause. -/
def roundLimit : Nat := 100000

/-- The outcomes of some tasks that run in turns, with a part of the state as their own. -/
def gather (part : Part σ κ) (tasks : List (Task σ α)) : Action σ (List (Except Raised α)) := do
  let own ← part.current
  (rounds part roundLimit (tasks.map (.waiting own))).always (part.write own)

end Task

end CallLog
