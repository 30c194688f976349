import CallLog.Proofs.Bare
import CallLog.Proofs.Hints
import CallLog.Proofs.Plan.Agreement

/-!
# Another annotation for a parameter

`World.annotate` is a world in which a parameter of a function is annotated in another way. Without
signatures the two worlds are the same, so they agree in all that does not depend on signatures. The
signatures of a callable agree too but for the annotation of that parameter, however the callable is
made of the function (`signatureOf_annotate`): as long as the parameter is not the last one, it is
not the last one of what is left of the signature either.
-/

namespace CallLog

/-! ## Parameters

What is left out of a signature on the way to a description is always at its front: the receiver, or
arguments that were given before. So the lists are compared from the front, and whether an
annotation stands before the last parameter can be told by the last one being the same. -/

namespace Param

/-- A parameter with another annotation, if it has the name of the first one. -/
def annotate (p : Param) (b : TypeHint) (q : Param) : Param :=
  if q.name = p.name then { q with hint := some b } else q

/-- Two parameters are the same, or are the first one and the first one with another annotation. -/
inductive Varies (p : Param) (b : TypeHint) : Param → Param → Prop where
  | same (q : Param) : Varies p b q q
  | annotated : Varies p b p { p with hint := some b }

/-- Two lists of parameters are the same but for an annotation before the last. The first clause
alone would allow the last one to differ. -/
structure AllVary (p : Param) (b : TypeHint) (ps qs : List Param) : Prop where
  each : List.Forall₂ (Varies p b) ps qs
  last : qs.getLast? = ps.getLast?

variable {p q r : Param} {b : TypeHint} {ps qs : List Param}

theorem Varies.kind (h : p.Varies b q r) : r.kind = q.kind := by
  cases h <;> rfl

theorem Varies.name_eq (h : p.Varies b q r) : r.name = q.name := by
  cases h <;> rfl

theorem AllVary.refl (ps : List Param) : AllVary p b ps ps :=
  ⟨List.forall₂_same.mpr fun q _ => .same q, rfl⟩

/-- Names are distinct, so the annotation of no other parameter changes; and the last one has
another name, since the parameter is found before it. -/
theorem allVary_annotate (hdistinct : (ps.map Param.name).Nodup) (hp : p ∈ ps.dropLast) :
    AllVary p b ps (ps.map (annotate p b)) := by
  have hname : ∀ q ∈ ps, q.name = p.name → q = p := fun q hq h =>
    List.inj_on_of_nodup_map hdistinct hq (List.dropLast_subset ps hp) h
  constructor
  · refine List.forall₂_map_right_iff.mpr (List.forall₂_same.mpr fun q hq => ?_)
    rw [annotate]
    split
    · rename_i heq
      rw [hname q hq heq]
      exact .annotated
    · exact .same q
  · rw [List.getLast?_map]
    rcases hlast : ps.getLast? with _ | q
    · rfl
    · have hne : q.name ≠ p.name := by
        rw [← List.dropLast_append_getLast? q hlast, List.map_append, List.nodup_append]
          at hdistinct
        exact fun h => hdistinct.2.2 _ (List.mem_map_of_mem hp) _ List.mem_cons_self h.symm
      rw [Option.map_some, annotate, if_neg hne]

/-- Without the first parameter the lists still vary so: the last one is the same as before, unless
there is none left. -/
theorem AllVary.tail (h : AllVary p b (q :: ps) (r :: qs)) : AllVary p b ps qs := by
  obtain ⟨heach, hlast⟩ := h
  cases heach with
  | cons _ hrest =>
    refine ⟨hrest, ?_⟩
    cases hrest with
    | nil => rfl
    | cons => simpa using hlast

/-- Arguments that were given before take away the same number of parameters on both sides, or too
many for both. -/
theorem allVary_dropGiven (h : AllVary p b ps qs) (n : Nat) :
    Option.Rel (AllVary p b) (Signature.dropGiven ps n) (Signature.dropGiven qs n) := by
  induction n generalizing ps qs with
  | zero =>
    simp only [Signature.dropGiven]
    exact .some h
  | succ n ih =>
    have heach := h.each
    cases heach with
    | nil => exact .none
    | @cons q r _ _ hqr _ =>
      rw [Signature.dropGiven, Signature.dropGiven, hqr.kind]
      cases q.kind with
      | positional | either => exact ih h.tail
      | rest => exact .some h
      | named | others => exact .none

end Param

/-! ## Signatures

A signature is changed by binding a receiver and by giving arguments. Both go by the names and the
kinds of the parameters, never by annotations, so they do the same on both sides and fail on both.
-/

namespace Signature

/-- A signature in which a parameter has another annotation. -/
def annotate (p : Param) (b : TypeHint) (signature : Signature) : Signature :=
  { signature with params := signature.params.map (Param.annotate p b) }

/-- Two signatures are the same but for an annotation of a parameter before the last. -/
structure Varies (p : Param) (b : TypeHint) (signature other : Signature) : Prop where
  params : Param.AllVary p b signature.params other.params
  returns : other.returns = signature.returns

variable {p : Param} {b : TypeHint} {signature other : Signature}

theorem Varies.refl (signature : Signature) : signature.Varies p b signature :=
  ⟨.refl _, rfl⟩

theorem varies_annotate (hdistinct : (signature.params.map Param.name).Nodup)
    (hp : p ∈ signature.params.dropLast) : signature.Varies p b (signature.annotate p b) :=
  ⟨Param.allVary_annotate hdistinct hp, rfl⟩

/-- What is left when a receiver is bound varies in the same way. -/
theorem Varies.bound (h : signature.Varies p b other) :
    EndAlike (Varies p b) signature.bound other.bound := by
  obtain ⟨ps, returns⟩ := signature
  obtain ⟨qs, returns'⟩ := other
  obtain ⟨hparams, rfl⟩ := h
  have heach := hparams.each
  cases heach with
  | nil => exact .error _
  | @cons q r _ _ hqr _ =>
    simp only [Signature.bound, hqr.kind]
    cases q.kind with
    | positional | either => exact .ok ⟨hparams.tail, rfl⟩
    | rest => exact .ok ⟨hparams, rfl⟩
    | named | others => exact .error _

/-- What is left when arguments are given varies in the same way. -/
theorem Varies.partly (h : signature.Varies p b other) (n : Nat) :
    EndAlike (Varies p b) (signature.partly n) (other.partly n) := by
  unfold Signature.partly
  have hdropped := Param.allVary_dropGiven h.params n
  generalize dropGiven signature.params n = ps at hdropped
  generalize dropGiven other.params n = qs at hdropped
  cases hdropped with
  | none => exact .error _
  | some hparams => exact .ok ⟨hparams, h.returns⟩

end Signature

/-! ## Worlds

Only one object is different in the two worlds, and that only in its signature. So all that does not
look at signatures is the same, which is known from `Bare` and needs no proof here: the worlds are
the same without signatures. -/

/-- A function with another annotation for a parameter. -/
def Function.annotate (p : Param) (b : TypeHint) (f : Function) : Function :=
  { f with signature := f.signature.annotate p b }

namespace World

/-- A world in which a function has another annotation for a parameter. -/
def annotate (t : Nat) (f : Function) (p : Param) (b : TypeHint) (w : World) : World :=
  w.put t (.function (f.annotate p b))

variable {w : World} {t : Nat} {f : Function} {p : Param} {b : TypeHint}

/-- An object is the same, or it is the function on both sides. -/
theorem object?_annotate (hf : w.object? t = some (.function f)) (u : Nat) :
    (w.annotate t f p b).object? u = w.object? u ∨
      w.object? u = some (.function f) ∧
        (w.annotate t f p b).object? u = some (.function (f.annotate p b)) := by
  by_cases hu : u = t
  · subst hu
    exact .inr ⟨hf, object?_put_self hf _⟩
  · exact .inl (object?_put_ne hu _ w)

/-- **The worlds differ in a signature only.** All the equations below are this one, under what is
asked of a world. -/
theorem bare_annotate (hf : w.object? t = some (.function f)) :
    (w.annotate t f p b).bare = w.bare := by
  have hobjects : (w.annotate t f p b).bare.objects = w.bare.objects := by
    refine Array.ext_getElem? fun u => ?_
    change (w.annotate t f p b).bare.object? u = w.bare.object? u
    rw [object?_bare, object?_bare]
    rcases object?_annotate (p := p) (b := b) hf u with h | ⟨h, h'⟩
    · rw [h]
    · rw [h, h']
      rfl
  exact congrArg (fun objects => { w with objects := objects }) hobjects

theorem depth_annotate (hf : w.object? t = some (.function f)) :
    (w.annotate t f p b).depth = w.depth := by
  rw [← depth_bare, bare_annotate hf, depth_bare]

theorem unwrap_annotate (hf : w.object? t = some (.function f)) (v : Value) :
    (w.annotate t f p b).unwrap v = w.unwrap v := by
  rw [← unwrap_bare, bare_annotate hf, unwrap_bare]

theorem isCallable_annotate (hf : w.object? t = some (.function f)) (v : Value) :
    (w.annotate t f p b).isCallable v = w.isCallable v := by
  rw [← isCallable_bare, bare_annotate hf, isCallable_bare]

theorem scopeChain_annotate (hf : w.object? t = some (.function f)) (v : Value)
    (owner : Option Class) :
    (w.annotate t f p b).scopeChain v owner = w.scopeChain v owner := by
  rw [← scopeChain_bare, bare_annotate hf, scopeChain_bare]

/-- What can be reported of a callable can be reported of it in the other world: a report shows what
it is called and how it is displayed, and no signature. -/
theorem CanReport.annotate (hf : w.object? t = some (.function f)) {target : Value} {j : Journal}
    (h : w.CanReport target j) : (w.annotate t f p b).CanReport target j := by
  have hbare := bare_annotate (p := p) (b := b) hf
  have hnaming : (w.annotate t f p b).naming = w.naming := by
    rw [← naming_bare, hbare, naming_bare]
  have hshown : (w.annotate t f p b).shown target = w.shown target := by
    rw [← shown_bare, hbare, shown_bare]
  have hlabel : (w.annotate t f p b).label? target .qualname = w.label? target .qualname := by
    rw [← label?_bare, hbare, label?_bare]
  obtain ⟨hbound, hdisplay, hwritable⟩ := h
  exact ⟨hnaming ▸ hbound, hshown ▸ hdisplay, hnaming ▸ hlabel ▸ hwritable⟩

/-! ## The signature of a callable

Methods, partial objects and wrappers lead to the function step by step. Each step has its own way
to take parameters away, and both worlds take the same step. -/

/-- **What is left of the signature** of a callable is the same but for the annotation. By induction
on the fuel; a step that needs no signature is the same in both worlds, and the others are told by
what is left one step further in. -/
theorem signatureWithin_annotate (hf : w.object? t = some (.function f))
    (hdistinct : (f.signature.params.map Param.name).Nodup)
    (hp : p ∈ f.signature.params.dropLast) (fuel : Nat) (v : Value) :
    EndAlike (Signature.Varies p b) (w.signatureWithin fuel v)
      ((w.annotate t f p b).signatureWithin fuel v) := by
  have hbare := bare_annotate (p := p) (b := b) hf
  have hclassGet (c : Class) (n : String) :
      (w.annotate t f p b).classGet? c n = w.classGet? c n := by
    rw [← classGet?_bare, hbare, classGet?_bare]
  have hclass (v : Value) : (w.annotate t f p b).instanceClass? v = w.instanceClass? v := by
    rw [← instanceClass?_bare, hbare, instanceClass?_bare]
  have hsame (x : Except Fault Signature) : EndAlike (Signature.Varies p b) x x := by
    rcases x with fault | signature
    · exact .error fault
    · exact .ok (.refl signature)
  have hbound {x y : Except Fault Signature} (h : EndAlike (Signature.Varies p b) x y) :
      EndAlike (Signature.Varies p b) (x >>= Signature.bound) (y >>= Signature.bound) :=
    h.bind fun _ _ => Signature.Varies.bound
  induction fuel generalizing v with
  | zero => exact .error _
  | succ fuel ih =>
    cases v with
    | type a =>
      cases a with
      | cls c =>
        cases c with
        | known k => exact hsame _
        | made ref ancestors =>
          have hline : (w.annotate t f p b).lineOf (.made ref ancestors) =
              w.lineOf (.made ref ancestors) := by
            rw [← lineOf_bare, hbare, lineOf_bare]
          simp only [signatureWithin, hclassGet, hline]
          rcases w.classGet? (.made ref ancestors) "__init__" with _ | initializer
          · exact hsame _
          · exact hbound (ih initializer)
      | _ =>
        simp only [signatureWithin, isCallable_annotate hf]
        exact hsame _
    | object u line =>
      simp only [signatureWithin, behind?_object, hclassGet, hclass]
      rcases object?_annotate (p := p) (b := b) hf u with h | ⟨h, h'⟩
      · rw [h]
        rcases w.object? u with _ | object
        · dsimp only
          split
          · exact hbound (ih _)
          · exact hsame _
        · cases object with
          | function | builtin | decoration => exact hsame _
          | logged l => exact ih l.wrapped
          | staticMethod func labels => exact ih func
          | method func receiver => exact hbound (ih func)
          | partly func given => exact (ih func).bind fun _ _ hxy => hxy.partly given.length
          | _ =>
            -- an instance is called by what its class says
            dsimp only
            split
            · exact hbound (ih _)
            · exact hsame _
      · rw [h, h']
        exact .ok (Signature.varies_annotate hdistinct hp)
    | _ =>
      simp only [signatureWithin, behind?, hclassGet, hclass]
      split
      · exact hbound (ih _)
      · exact hsame _

theorem signatureOf_annotate (hf : w.object? t = some (.function f))
    (hdistinct : (f.signature.params.map Param.name).Nodup)
    (hp : p ∈ f.signature.params.dropLast) (v : Value) :
    EndAlike (Signature.Varies p b) (w.signatureOf v) ((w.annotate t f p b).signatureOf v) := by
  rw [signatureOf, signatureOf, depth_annotate hf]
  exact signatureWithin_annotate hf hdistinct hp _ v

/-! ## The function of a callable

Annotations are read from one function behind a callable, and it is the same function before and
after. So a callable whose annotations come from elsewhere is not concerned by the change. -/

variable {v : Value} {g : Function}

/-- A callable has the annotations of the same function, or they were those of the function that
changed. -/
theorem HasHintsOf.annotate (hf : w.object? t = some (.function f)) (h : w.HasHintsOf v g) :
    (w.annotate t f p b).HasHintsOf v g ∨
      g = f ∧ (w.annotate t f p b).HasHintsOf v (f.annotate p b) := by
  induction h with
  | @function u line g hu =>
    rcases object?_annotate (p := p) (b := b) hf u with h | ⟨h, h'⟩
    · exact .inl (.function (h.trans hu))
    · rw [hu] at h
      cases h
      exact .inr ⟨rfl, .function h'⟩
  | @inside u line object func g hu hfunc _ ih =>
    rcases object?_annotate (p := p) (b := b) hf u with h | ⟨h, -⟩
    · exact ih.imp (.inside (h.trans hu) hfunc) fun ⟨heq, hfunction⟩ =>
        ⟨heq, .inside (h.trans hu) hfunc hfunction⟩
    · rw [hu] at h
      cases h
      cases hfunc

/-- A callable that has the annotations of a function had those of one before. -/
theorem HasHintsOf.of_annotate (hf : w.object? t = some (.function f))
    (h : (w.annotate t f p b).HasHintsOf v g) : ∃ g, w.HasHintsOf v g := by
  induction h with
  | @function u line g hu =>
    rcases object?_annotate (p := p) (b := b) hf u with h | ⟨h, -⟩
    · exact ⟨g, .function (h.symm.trans hu)⟩
    · exact ⟨f, .function h⟩
  | @inside u line object func g hu hfunc _ ih =>
    obtain ⟨g, hg⟩ := ih
    rcases object?_annotate (p := p) (b := b) hf u with h | ⟨-, h⟩
    · exact ⟨g, .inside (h.symm.trans hu) hfunc hg⟩
    · rw [hu] at h
      cases h
      cases hfunc

end World

end CallLog
