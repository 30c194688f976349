import CallLog.Task
import CallLog.Proofs.Action

/-!
# Invariants of computations

An action keeps an invariant of the state if it holds afterwards, whatever the outcome. A task keeps
it if it holds whenever the task pauses or ends, as long as the other tasks keep it. What is put
together from computations that keep an invariant keeps it.
-/

namespace CallLog

namespace Action

variable {σ α β : Type} {I : σ → Prop}

/-- An action keeps an invariant of the state, whatever its outcome. A failure leaves a state too,
and what comes after it starts from there. -/
def Maintains (I : σ → Prop) (x : Action σ α) : Prop :=
  ∀ s, I s → I (x s).2

theorem Maintains.pure (a : α) : Maintains I (Pure.pure a : Action σ α) :=
  fun _ h => h

theorem Maintains.fault (f : Fault) : Maintains I (Action.fault f : Action σ α) :=
  fun _ h => h

theorem Maintains.raise (r : Raised) : Maintains I (Action.raise r : Action σ α) :=
  fun _ h => h

theorem Maintains.resume (x : Except Raised α) : Maintains I (Action.resume x : Action σ α) := by
  rcases x with r | a
  · exact .raise r
  · exact .pure a

theorem Maintains.ofExcept (x : Except Fault α) : Maintains I (Action.ofExcept x : Action σ α) := by
  intro s hs
  rcases x with f | a
  · exact hs
  · exact hs

/-- What is put together of two actions keeps an invariant if both do. If the first one fails there
is no second one, and its own state is the last. -/
theorem Maintains.bind {x : Action σ α} {f : α → Action σ β} (hx : Maintains I x)
    (hf : ∀ a, Maintains I (f a)) : Maintains I (x >>= f) := by
  intro s hs
  have hxs := hx s hs
  rcases h : x s with ⟨r | a, t⟩
  · rw [bind_of_error h]
    rwa [h] at hxs
  · rw [bind_of_ok h]
    rw [h] at hxs
    exact hf a t hxs

/-- What is caught leaves the state as the failure left it, and the invariant holds there. -/
theorem Maintains.attempt {x : Action σ α} (hx : Maintains I x) : Maintains I x.attempt :=
  fun s hs => hx s hs

/-- A list is gone through from the left. The first failure ends it, in a state in which the
invariant holds. -/
theorem Maintains.mapM {f : α → Action σ β} (hf : ∀ a, Maintains I (f a)) (as : List α) :
    Maintains I (as.mapM f) := by
  induction as with
  | nil => exact .pure _
  | cons a as ih =>
    rw [List.mapM_cons]
    exact (hf a).bind fun _ => ih.bind fun _ => .pure _

theorem Maintains.foldlM {f : β → α → Action σ β} (hf : ∀ b a, Maintains I (f b a))
    (as : List α) (b : β) : Maintains I (as.foldlM f b) := by
  induction as generalizing b with
  | nil => exact .pure b
  | cons a as ih => exact (hf b a).bind ih

theorem Maintains.forM {f : α → Action σ PUnit} (hf : ∀ a, Maintains I (f a)) (as : List α) :
    Maintains I (as.forM f) := by
  induction as with
  | nil => exact .pure _
  | cons a as ih => exact (hf a).bind fun _ => ih

end Action

/-- The invariant holds whenever the task pauses or ends, if it holds again whenever the task goes
on. -/
def Progress.Maintains {σ α : Type} (I : σ → Prop) : Progress σ α → Prop
  | .done _ s => I s
  | .paused s rest => I s ∧ ∀ t, I t → (rest t).Maintains I

/-- What goes on after the end of a task starts from a state in which the invariant holds. By
recursion on the progress, pause by pause. -/
theorem Progress.Maintains.andThen {σ α β : Type} {I : σ → Prop} {p : Progress σ α}
    {f : Except Raised α → σ → Progress σ β} (hp : p.Maintains I)
    (hf : ∀ outcome s, I s → (f outcome s).Maintains I) : (p.andThen f).Maintains I := by
  induction p with
  | done outcome s => exact hf outcome s hp
  | paused s rest ih => exact ⟨hp.1, fun t ht => ih t (hp.2 t ht)⟩

namespace Task

variable {σ α β : Type} {I : σ → Prop}

/-- A task keeps an invariant of the state, if the other tasks do. -/
def Maintains (I : σ → Prop) (x : Task σ α) : Prop :=
  ∀ s, I s → (x s).Maintains I

theorem Maintains.pure (a : α) : Maintains I (Pure.pure a : Task σ α) :=
  fun _ h => h

theorem Maintains.raise (r : Raised) : Maintains I (Task.raise r : Task σ α) :=
  fun _ h => h

theorem Maintains.fault (f : Fault) : Maintains I (Task.fault f : Task σ α) :=
  fun _ h => h

/-- While a task pauses the others go on. The invariant holds before, and it is assumed to hold
after. -/
theorem Maintains.pause : Maintains I (Task.pause : Task σ Unit) :=
  fun _ h => ⟨h, fun _ h => h⟩

theorem Maintains.ofAction {x : Action σ α} (hx : x.Maintains I) :
    Maintains I (Task.ofAction x) :=
  hx

/-- For tasks the first one may pause any number of times. That is the recursion of `andThen`, so
there is nothing left to do but to look at how it ended. -/
theorem Maintains.bind {x : Task σ α} {f : α → Task σ β} (hx : Maintains I x)
    (hf : ∀ a, Maintains I (f a)) : Maintains I (x >>= f) := by
  intro s hs
  refine (hx s hs).andThen fun outcome t ht => ?_
  rcases outcome with r | a
  · exact ht
  · exact hf a t ht

theorem Maintains.attempt {x : Task σ α} (hx : Maintains I x) : Maintains I x.attempt :=
  fun s hs => (hx s hs).andThen fun _ _ ht => ht

/-- What is done last, whatever the outcome, has to keep the invariant as well. -/
theorem Maintains.always {x : Task σ α} (hx : Maintains I x) {last : σ → σ}
    (hlast : ∀ s, I s → I (last s)) : Maintains I (x.always last) :=
  fun s hs => (hx s hs).andThen fun _ t ht => hlast t ht

theorem Maintains.mapM {f : α → Task σ β} (hf : ∀ a, Maintains I (f a)) (as : List α) :
    Maintains I (as.mapM f) := by
  have hloop (as : List α) (done : List β) : Maintains I (List.mapM.loop f as done) := by
    induction as generalizing done with
    | nil => exact .pure _
    | cons a as ih => exact (hf a).bind fun b => ih (b :: done)
  exact hloop as []

theorem Maintains.foldlM {f : β → α → Task σ β} (hf : ∀ b a, Maintains I (f b a)) (as : List α)
    (b : β) : Maintains I (as.foldlM f b) := by
  induction as generalizing b with
  | nil => exact .pure b
  | cons a as ih => exact (hf b a).bind ih

end Task

end CallLog
