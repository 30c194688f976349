import CallLog.Raised

/-!
# Actions

A computation with a state, which ends with a result or by raising. What it did to the state before
it raised stays done. `attempt` turns the outcome of an action into its result, `always` runs an
action after another one whatever its outcome, and `Part` lets an action on one part of a state act
on the whole.
-/

namespace CallLog

/-- A computation with a state of type `σ`, which may raise. -/
abbrev Action (σ : Type) := ExceptT Raised (StateM σ)

namespace Action

variable {σ τ α : Type}

/-- Ends an action by raising. -/
def raise (r : Raised) : Action σ α :=
  fun s => (.error r, s)

/-- Ends an action by a fault. -/
def fault (f : Fault) : Action σ α :=
  raise (.fault f)

/-- The result of a pure computation. -/
def ofExcept : Except Fault α → Action σ α
  | .ok a => pure a
  | .error f => fault f

/-- An action whose result is the outcome of another one. -/
def attempt (x : Action σ α) : Action σ (Except Raised α) :=
  fun s =>
    let (outcome, s) := x s
    (.ok outcome, s)

/-- The outcome of an attempt, taken up again. -/
def resume : Except Raised α → Action σ α
  | .ok a => pure a
  | .error r => raise r

/-- An action that applies a function to the state at the end, whatever the outcome. -/
def always (x : Action σ α) (last : σ → σ) : Action σ α :=
  fun s =>
    let (outcome, s) := x s
    (outcome, last s)

end Action

/-- A part of a state. -/
structure Part (σ τ : Type) where
  read : σ → τ
  write : τ → σ → σ

namespace Part

variable {σ τ ρ α : Type}

/-- The whole as a part of itself. -/
def whole : Part σ σ :=
  ⟨id, fun t _ => t⟩

/-- A part of a part. -/
def inside (inner : Part τ ρ) (outer : Part σ τ) : Part σ ρ :=
  ⟨fun s => inner.read (outer.read s), fun t s => outer.write (inner.write t (outer.read s)) s⟩

/-- An action on a part as an action on the whole. -/
def lift (part : Part σ τ) (x : Action τ α) : Action σ α :=
  fun s =>
    let (outcome, t) := x (part.read s)
    (outcome, part.write t s)

/-- The part that is now there. -/
def current (part : Part σ τ) : Action σ τ :=
  fun s => (.ok (part.read s), s)

/-- Changes a part. -/
def update (part : Part σ τ) (f : τ → τ) : Action σ Unit :=
  fun s => (.ok (), part.write (f (part.read s)) s)

end Part

end CallLog
