import CallLog.Action

/-!
# Running actions

What an action that is put together from others does, told by what its parts do. An action that
ended with a result can be taken apart by `bind_eq_ok`, and put together by `bind_of_ok`; it ends
where its first part ends by raising (`bind_of_error`).
-/

namespace CallLog

namespace Action

variable {σ τ α β : Type}

theorem pure_run (a : α) (s : σ) : (pure a : Action σ α) s = (.ok a, s) := rfl

/-- Where the first part ends with a result, the rest goes on from the state that it left. -/
theorem bind_of_ok {x : Action σ α} {s t : σ} {a : α} (h : x s = (.ok a, t))
    (f : α → Action σ β) : (x >>= f) s = f a t := by
  change ExceptT.bindCont f (x s).1 (x s).2 = f a t
  rw [h]
  rfl

/-- Where the first part raises, the rest is not begun. -/
theorem bind_of_error {x : Action σ α} {s t : σ} {r : Raised} (h : x s = (.error r, t))
    (f : α → Action σ β) : (x >>= f) s = (.error r, t) := by
  change ExceptT.bindCont f (x s).1 (x s).2 = (.error r, t)
  rw [h]
  rfl

/-- Inversion for `bind`: a whole that ended with a result is made of two parts that did, with a
state between them. A run is taken apart from its end by using this once for each step. -/
theorem bind_eq_ok {x : Action σ α} {f : α → Action σ β} {s u : σ} {b : β}
    (h : (x >>= f) s = (.ok b, u)) : ∃ a t, x s = (.ok a, t) ∧ f a t = (.ok b, u) := by
  rcases hx : x s with ⟨r | a, t⟩
  · rw [bind_of_error hx] at h
    cases h
  · rw [bind_of_ok hx] at h
    exact ⟨a, t, rfl, h⟩

/-- What relates the states around both parts of an action relates the states around the whole. The
outcome of the first part does not matter: where it raises, its end is the end of the whole. -/
theorem bind_rel {R : σ → σ → Prop} (htrans : ∀ {s t u}, R s t → R t u → R s u)
    {x : Action σ α} {f : α → Action σ β} {s : σ} (hx : R s (x s).2)
    (hf : ∀ a t, x s = (.ok a, t) → R t (f a t).2) : R s ((x >>= f) s).2 := by
  rcases h : x s with ⟨r | a, t⟩
  · rw [bind_of_error h]
    rwa [h] at hx
  · rw [bind_of_ok h]
    rw [h] at hx
    exact htrans hx (hf a t h)

/-- Inversion for `bind` without a state. -/
theorem except_bind_eq_ok {ε : Type} {x : Except ε α} {f : α → Except ε β} {b : β}
    (h : x >>= f = .ok b) : ∃ a, x = .ok a ∧ f a = .ok b := by
  rcases x with r | a
  · cases h
  · exact ⟨a, rfl, h⟩

/-- The result of an action on the items of a list one after the other. -/
theorem mapM_cons_of_ok {f : α → Action σ β} {a : α} {as : List α} {s t u : σ} {b : β}
    {bs : List β} (ha : f a s = (.ok b, t)) (has : as.mapM f t = (.ok bs, u)) :
    (a :: as).mapM f s = (.ok (b :: bs), u) := by
  rw [List.mapM_cons, bind_of_ok ha, bind_of_ok has]
  rfl

end Action

end CallLog
