import CallLog.Task
import CallLog.Proofs.Action

/-!
# How tasks end

While a task pauses, other tasks may change the state in any way. `Progress.Ends` holds of the
outcomes and states that a task can come to, whatever happens during its pauses. Run by itself, a
task comes to one of them (`ends_run`), and a task that is put together from others ends as its
parts do (`ends_andThen`).
-/

namespace CallLog

namespace Progress

variable {σ α β : Type}

/-- The end that a task can come to, whatever the state is changed to while it pauses. -/
inductive Ends : Progress σ α → Except Raised α → σ → Prop where
  | done {outcome : Except Raised α} {s : σ} : Ends (.done outcome s) outcome s
  | paused {s t : σ} {rest : σ → Progress σ α} {outcome : Except Raised α} (changed : σ)
      (h : Ends (rest changed) outcome t) : Ends (.paused s rest) outcome t

theorem ends_done_iff {outcome o : Except Raised α} {s t : σ} :
    (done outcome s).Ends o t ↔ o = outcome ∧ t = s := by
  constructor
  · rintro ⟨⟩
    exact ⟨rfl, rfl⟩
  · rintro ⟨rfl, rfl⟩
    exact .done

/-- Run by itself, a task comes to one of its ends: that at which nothing changes while it
pauses. -/
theorem ends_run (p : Progress σ α) : p.Ends p.run.1 p.run.2 := by
  induction p with
  | done outcome s => exact .done
  | paused s rest ih => exact .paused s (ih s)

/-- **Tasks one after the other** end as the second one does after an end of the first. The state
between them is that at which the first has ended, whatever it was before. -/
theorem ends_andThen {p : Progress σ α} {f : Except Raised α → σ → Progress σ β}
    {outcome : Except Raised β} {t : σ} :
    (p.andThen f).Ends outcome t ↔ ∃ o s, p.Ends o s ∧ (f o s).Ends outcome t := by
  induction p with
  | done o s =>
    constructor
    · exact fun h => ⟨o, s, .done, h⟩
    · rintro ⟨_, _, ⟨⟩, h⟩
      exact h
  | paused s rest ih =>
    constructor
    · rintro (_ | ⟨changed, h⟩)
      obtain ⟨o, u, hrest, hf⟩ := (ih changed).mp h
      exact ⟨o, u, .paused changed hrest, hf⟩
    · rintro ⟨o, u, _ | ⟨changed, hrest⟩, hf⟩
      exact .paused changed ((ih changed).mpr ⟨o, u, hrest, hf⟩)

theorem andThen_done (p : Progress σ α) : p.andThen done = p := by
  induction p with
  | done outcome s => rfl
  | paused s rest ih => exact congrArg (paused s) (funext ih)

/-- What comes after a task can be put together in any order. -/
theorem andThen_andThen {γ : Type} (p : Progress σ α)
    (f : Except Raised α → σ → Progress σ β) (g : Except Raised β → σ → Progress σ γ) :
    (p.andThen f).andThen g = p.andThen fun outcome s => (f outcome s).andThen g := by
  induction p with
  | done outcome s => rfl
  | paused s rest ih => exact congrArg (paused s) (funext ih)

end Progress

namespace Task

variable {σ α β : Type}

theorem bind_apply (x : Task σ α) (f : α → Task σ β) (s : σ) :
    (x >>= f) s = (x s).andThen fun outcome =>
      match outcome with
      | .ok a => f a
      | .error r => fun s => .done (.error r) s := rfl

theorem ofAction_bind_of_ok {x : Action σ α} {s t : σ} {a : α} (h : x s = (.ok a, t))
    (f : α → Task σ β) : (ofAction x >>= f) s = f a t := by
  have hdone : ofAction x s = .done (.ok a) t := by rw [ofAction, h]
  rw [bind_apply, hdone]
  rfl

theorem ofAction_bind_of_error {x : Action σ α} {s t : σ} {r : Raised}
    (h : x s = (.error r, t)) (f : α → Task σ β) :
    (ofAction x >>= f) s = .done (.error r) t := by
  have hdone : ofAction x s = .done (.error r) t := by rw [ofAction, h]
  rw [bind_apply, hdone]
  rfl

/-- Whatever a task that is attempted ends with is handed on, be it a result or a failure. -/
theorem attempt_bind (x : Task σ α) (f : Except Raised α → Task σ β) (s : σ) :
    (x.attempt >>= f) s = (x s).andThen f := by
  exact Progress.andThen_andThen (x s) _ _

end Task

end CallLog
