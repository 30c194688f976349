import CallLog.Proofs.Annotate
import CallLog.Proofs.TypeHint.Settled

/-!
# One annotation that cannot be resolved

The annotations of a function are resolved together or not at all, so one that cannot be resolved
takes the others with it: they are used as they are written. Where they hold no text that changes
little. `TypeHint.ResolvesTo` says what: `None` stands for itself and not for its class, and stars
are left where `Unpack` would take their place.

`plans_undisturbed` is the main statement. It compares two worlds, in one of which a parameter of a
function has an annotation that cannot be resolved. Whatever is described in both has plans that
agree in all but the annotation of that parameter, the spelling of `None` and the stars. With a star
they do differ (`star_disturbs_transfer`).
-/

namespace CallLog

/-! ## As written and as resolved

An annotation without text can be read in two ways: as it is written, and as evaluation gives it.
All that a plan asks of an annotation is whether it excludes, whether it is one of exceptions, and
whether it returns a value. Neither `None` nor a star makes a difference to these, unless a star is
what keeps two members of a union apart. -/

namespace TypeHint

/-- What an annotation without text can be once it is resolved: the same, but for `None` and for
stars. -/
inductive ResolvesTo : TypeHint → TypeHint → Prop where
  | written (a : TypeHint) : ResolvesTo a a
  /-- `None` stands for its class -/
  | none : ResolvesTo .none noneType
  /-- `Unpack` takes the place of the stars -/
  | unpacked {raw a : TypeHint} (hstar : raw.HoldsStar) (h : raw.unstarred = .ok a) :
      ResolvesTo raw a

variable {raw a : TypeHint}

/-- What evaluation gives for an annotation without text is what it resolves to: where no star
stands it is the same, and where one does it is what comes of taking the stars away. -/
theorem resolvesTo_of_unstarred (hraw : raw.IsSettled) (h : raw.asMember.unstarred = .ok a) :
    raw.ResolvesTo a := by
  by_cases hstar : raw.HoldsStar
  · exact .unpacked hstar (hstar.asMember_eq ▸ h)
  · rcases hraw.asMember_eq with heq | ⟨rfl, heq⟩
    · rw [heq] at h
      obtain rfl := eq_of_unstarred hraw hstar h
      exact .written a
    · rw [heq] at h
      obtain rfl := Except.ok.inj h
      exact .none

theorem unmark_eq_self (h : ∀ b marks, a ≠ .annotated b marks) : a.unmark.1 = a := by
  cases a with
  | annotated b marks => exact absurd rfl (h b marks)
  | _ => rfl

/-- If no mark is hidden, evaluation changes what is marked and leaves the marks. So an annotation
is marked in both readings or in neither, and with the same marks. -/
theorem marks_of_unstarred (hstar : raw.HoldsStar) (hmarks : raw.HidesNoMarks)
    (h : raw.unstarred = .ok a) :
    (∃ c d ms, raw = .annotated c ms ∧ a = .annotated d ms ∧ c.unstarred = .ok d) ∨
      (∀ c ms, raw ≠ .annotated c ms) ∧ ∀ c ms, a ≠ .annotated c ms := by
  by_cases hannotated : ∃ c ms, raw = .annotated c ms
  · obtain ⟨c, ms, rfl⟩ := hannotated
    obtain ⟨d, hd, h⟩ := Action.except_bind_eq_ok h
    have hunpack : d.HoldsUnpack := holdsUnpack_of_unstarred (Holds.annotated_iff.mp hstar) hd
    obtain ⟨e, he, h⟩ := Action.except_bind_eq_ok h
    obtain rfl := asMember_of_nested he
    rw [hunpack.asMember_eq] at h
    split at h
    · exact absurd hd (hmarks _ _)
    · cases h
    · exact .inl ⟨c, d, ms, rfl, (Except.ok.inj h).symm, hd⟩
  · have hraw : ∀ c ms, raw ≠ .annotated c ms := fun c ms heq => hannotated ⟨c, ms, heq⟩
    refine .inr ⟨hraw, fun c ms heq => hmarks c ms ?_⟩
    rw [unmark_eq_self hraw, h, heq]

namespace ResolvesTo

theorem unmark (h : raw.ResolvesTo a) (hmarks : raw.HidesNoMarks) :
    raw.unmark.1.ResolvesTo a.unmark.1 := by
  cases h with
  | written => exact .written _
  | none => exact .none
  | unpacked hstar h =>
    rcases marks_of_unstarred hstar hmarks h with ⟨c, d, ms, rfl, rfl, hd⟩ | ⟨hraw, ha⟩
    · exact .unpacked (Holds.annotated_iff.mp hstar) hd
    · rw [unmark_eq_self hraw, unmark_eq_self ha]
      exact .unpacked hstar h

/-- Whether a parameter is excluded is the same in both readings. -/
theorem excludes_iff (h : raw.ResolvesTo a) (hmarks : raw.HidesNoMarks) :
    a.Excludes ↔ raw.Excludes := by
  cases h with
  | written => rfl
  | none => exact iff_of_false (not_excludes nofun) (not_excludes nofun)
  | unpacked hstar h =>
    rcases marks_of_unstarred hstar hmarks h with ⟨c, d, ms, rfl, rfl, -⟩ | ⟨hraw, ha⟩
    · simp only [Excludes, annotated.injEq]
      grind
    · exact iff_of_false (not_excludes ha) (not_excludes hraw)

end ResolvesTo

/-- What stands for an annotation of a parameter once it is resolved. -/
structure StandsFor (a raw : TypeHint) : Prop where
  resolves : raw.ResolvesTo a
  unmarked : raw.unmark.1.ResolvesTo a.unmark.1
  excludes_iff : a.Excludes ↔ raw.Excludes

theorem StandsFor.refl (a : TypeHint) : a.StandsFor a :=
  ⟨.written a, .written _, Iff.rfl⟩

end TypeHint

/-! ## Functions without text

Without text there is nothing to look up, so what evaluation gives does not depend on the world, and
if it fails, it fails in every world. `settledHints` is that outcome, by the signature alone. -/

/-- A signature without text in its annotations. -/
structure Signature.IsSettled (signature : Signature) : Prop where
  wellFormed : signature.WellFormed
  /-- no parameter has the name that the annotation of the result is kept under -/
  unreserved : ∀ p ∈ signature.params, p.name ≠ "return"
  params : ∀ p ∈ signature.params, ∀ a, p.hint = some a → a.IsSettled
  /-- no parameter is excluded on account of what evaluated stars make equal -/
  marks : ∀ p ∈ signature.params, ∀ a, p.hint = some a → a.HidesNoMarks
  returns : ∀ a, signature.returns = some a → a.IsSettled

namespace World

variable {w : World} {g : Function} {signature : Signature}

theorem lookup_param (h : signature.IsSettled) {p : Param} (hp : p ∈ signature.params) :
    (declaredHints signature).lookup p.name = p.hint := by
  rcases hhint : p.hint with _ | a
  · rw [List.lookup_eq_none_iff]
    intro e he
    rw [bne_iff_ne]
    intro hname
    rcases mem_declaredHints.mp he with ⟨q, hq, hqhint, hqname⟩ | ⟨hreturn, -⟩
    · obtain rfl := List.inj_on_of_nodup_map h.wellFormed.distinct hq hp (hqname.trans hname.symm)
      rw [hhint] at hqhint
      cases hqhint
    · exact h.unreserved p hp (hname.trans hreturn)
  · exact lookup_declaredHints h.wellFormed hp hhint

theorem lookup_return (h : signature.IsSettled) :
    (declaredHints signature).lookup "return" = signature.returns := by
  rw [declaredHints, List.lookup_append]
  have hparams : ((keptOrder signature.params).filterMap fun p =>
      p.hint.map fun a => (p.name, a)).lookup "return" = none := by
    rw [List.lookup_eq_none_iff]
    intro e he
    obtain ⟨p, hp, he⟩ := List.mem_filterMap.mp he
    obtain ⟨a, -, rfl⟩ := Option.map_eq_some_iff.mp he
    exact bne_iff_ne.mpr (h.unreserved p (mem_keptOrder.mp hp)).symm
  rw [hparams]
  rcases signature.returns with _ | a <;> rfl

/-- The annotations of a signature without text, as they are resolved. -/
def settledHints (signature : Signature) : Except Fault (List (String × TypeHint)) :=
  (declaredHints signature).mapM fun (name, a) => return (name, ← a.asMember.unstarred)

/-- What is found under a name is what is declared under it, evaluated. -/
theorem lookup_settledHints {hints : List (String × TypeHint)}
    (h : settledHints signature = .ok hints) (name : String) :
    Option.Rel (fun raw a => raw.asMember.unstarred = .ok a)
      ((declaredHints signature).lookup name) (hints.lookup name) := by
  rw [settledHints] at h
  generalize declaredHints signature = declared at h ⊢
  induction declared generalizing hints with
  | nil =>
    obtain rfl := Except.ok.inj h
    exact .none
  | cons e declared ih =>
    rw [List.mapM_cons] at h
    obtain ⟨e', he, h⟩ := Action.except_bind_eq_ok h
    obtain ⟨a, ha, he⟩ := Action.except_bind_eq_ok he
    obtain ⟨rest, hrest, h⟩ := Action.except_bind_eq_ok h
    obtain rfl := Except.ok.inj he
    obtain rfl := Except.ok.inj h
    rw [Document.lookup_cons, Document.lookup_cons]
    split
    · exact .some ha
    · exact ih hrest

/-- **The annotations of a function without text** are the same in every world, or cannot be
resolved anywhere. -/
theorem follows_functionHints (hg : g.signature.IsSettled) :
    Follows (fun w => w.functionHints g) (settledHints g.signature) := by
  refine follows_mapM fun e he => ?_
  have hsettled : e.2.IsSettled := by
    rcases mem_declaredHints.mp he with ⟨p, hp, ha, -⟩ | ⟨-, ha⟩
    · exact hg.params p hp _ ha
    · exact hg.returns _ ha
  exact (follows_resolveDeclared hsettled g.home).bind fun _ => follows_const _

/-! ## Callables without text

A callable may stand around a function, and then its annotations are those of the function, or there
are none. In both cases what stands for a parameter is what was written for it, in one reading or
the other. -/

/-- A callable without text: the function that it has its annotations from has none. -/
def IsSettled (w : World) (v : Value) : Prop :=
  ∀ g, w.HasHintsOf v g → g.signature.IsSettled

/-- What a callable is declared to return: as it is resolved, else as it is written. -/
def declaredReturn (w : World) (v : Value) (signature : Signature) : TypeHint :=
  ((w.annotations v).lookup "return").getD (signature.returns.getD .any)

/-- Either no annotation of a callable is resolved, or all are. -/
theorem annotations_of_settled {v : Value} (hv : w.IsSettled v)
    (hsignature : w.signatureOf v = .ok signature) :
    w.annotations v = [] ∨
      ∃ g, w.HasHintsOf v g ∧ settledHints g.signature = .ok (w.annotations v) := by
  by_cases h : ∃ g, w.HasHintsOf v g
  · obtain ⟨g, hg⟩ := h
    obtain ⟨hhints, -⟩ := hg.of_signatureWithin hsignature
    rcases hresolved : w.functionHints g with fault | hints
    · exact .inl (annotations_of_error (hhints.trans hresolved))
    · refine .inr ⟨g, hg, ?_⟩
      rw [annotations_of_ok (hhints.trans hresolved)]
      rcases follows_functionHints (hv g hg) with h | ⟨fault, h⟩
      · exact (h w).symm.trans hresolved
      · cases (h w).symm.trans hresolved
  · exact .inl (annotations_eq_nil (not_exists.mp h))

theorem resolvesTo_of_rel {raw a : Option TypeHint}
    (h : Option.Rel (fun raw a => raw.asMember.unstarred = .ok a) raw a)
    (hraw : ∀ b, raw = some b → b.IsSettled) :
    (raw.getD .any).ResolvesTo (a.getD (raw.getD .any)) := by
  cases h with
  | none => exact .written _
  | some h => exact TypeHint.resolvesTo_of_unstarred (hraw _ rfl) h

/-- The annotations of a callable without text are as they are written, but for `None` and for
stars. If they are evaluated they are what they resolve to, and if not they resolve to
themselves. -/
theorem annotation_of_settled {v : Value} (hv : w.IsSettled v)
    (hsignature : w.signatureOf v = .ok signature) :
    (∀ p ∈ signature.params, (w.annotation v p).StandsFor (p.hint.getD .any)) ∧
      (signature.returns.getD .any).ResolvesTo (w.declaredReturn v signature) := by
  rcases annotations_of_settled hv hsignature with h | ⟨g, hg, h⟩
  · simp only [World.annotation, declaredReturn, h, List.lookup_nil, Option.getD_none]
    exact ⟨fun p _ => .refl _, .written _⟩
  · obtain ⟨-, hparams, hreturns⟩ := hg.of_signatureWithin hsignature
    have hsettled := hv g hg
    refine ⟨fun p hp => ?_, ?_⟩
    · have hmem := hparams hp
      have hrel := lookup_settledHints h p.name
      rw [lookup_param hsettled hmem] at hrel
      have hresolves := resolvesTo_of_rel hrel (hsettled.params p hmem)
      have hmarks : (p.hint.getD .any).HidesNoMarks := by
        rcases hhint : p.hint with _ | a
        · intro b marks hany
          cases hany
        · exact hsettled.marks p hmem a hhint
      exact ⟨hresolves, hresolves.unmark hmarks, hresolves.excludes_iff hmarks⟩
    · have hrel := lookup_settledHints h "return"
      rw [lookup_return hsettled, ← hreturns] at hrel
      exact resolvesTo_of_rel hrel (hreturns ▸ hsettled.returns)

/-! ## The annotation that cannot be resolved

The two worlds have the same objects but for one function, and that has another annotation for a
parameter. Three kinds of callables are told apart: those that are not made of the function are
described as before; those that are have no resolved annotations any more; and if they had none
before, nothing changes for them either. -/

/-- Another annotation for a parameter of a function that is not the last one. It cannot be
resolved, and excludes the parameter as little as the old one did. -/
structure Spoils (w : World) (t : Nat) (f : Function) (p : Param) (b : TypeHint) : Prop where
  function : w.object? t = some (.function f)
  distinct : (f.signature.params.map Param.name).Nodup
  mem : p ∈ f.signature.params.dropLast
  kept : ¬ (p.hint.getD .any).Excludes
  stillKept : ¬ b.Excludes
  unresolved : ∀ hint, (w.annotate t f p b).resolveDeclared f.home b ≠ .ok hint

section

variable {t : Nat} {f : Function} {p : Param} {b : TypeHint} {v : Value} {other : Signature}

theorem Spoils.not_resolves (h : w.Spoils t f p b) :
    ¬ (w.annotate t f p b).Resolves (f.annotate p b) := by
  intro hresolves
  have hmem : { p with hint := some b } ∈ (f.annotate p b).signature.params := by
    refine List.mem_map.mpr ⟨p, List.dropLast_subset _ h.mem, ?_⟩
    rw [Param.annotate, if_pos rfl]
  obtain ⟨hint, hhint⟩ := hresolves.params _ hmem b rfl
  exact h.unresolved hint hhint

/-- A callable that is made of the function has an annotation that cannot be resolved, so none
is. -/
theorem Spoils.exists_fault (h : w.Spoils t f p b)
    (hv : (w.annotate t f p b).HasHintsOf v (f.annotate p b))
    (hother : (w.annotate t f p b).signatureOf v = .ok other) :
    ∃ fault, (w.annotate t f p b).typeHints (w.annotate t f p b).depth v = .error fault := by
  obtain ⟨hhints, -⟩ := hv.of_signatureWithin hother
  rcases (w.annotate t f p b).functionHints_cases (f.annotate p b) with
    ⟨hresolves, -⟩ | ⟨-, fault, hfault⟩
  · exact absurd hresolves h.not_resolves
  · exact ⟨fault, hhints.trans hfault⟩

variable (h : w.Spoils t f p b) (hv : w.IsSettled v) (hsignature : w.signatureOf v = .ok signature)
  (hother : (w.annotate t f p b).signatureOf v = .ok other)

include h hv hsignature hother

/-- The annotations of a callable are what they were, or there are none. This is the only way in
which the other annotation is felt by the other parameters. -/
theorem Spoils.annotations_eq :
    (w.annotate t f p b).annotations v = w.annotations v ∨
      (w.annotate t f p b).annotations v = [] := by
  by_cases hfunction : ∃ g, w.HasHintsOf v g
  · obtain ⟨g, hg⟩ := hfunction
    rcases hg.annotate (p := p) (b := b) h.function with hg' | ⟨rfl, hg'⟩
    · left
      obtain ⟨hhints, -⟩ := hg.of_signatureWithin hsignature
      obtain ⟨hhints', -⟩ := hg'.of_signatureWithin hother
      have hsame := (follows_functionHints (hv g hg)).same (w.annotate t f p b) w
      rw [World.annotations, World.annotations, hhints', hhints, hsame]
    · right
      obtain ⟨fault, hfault⟩ := h.exists_fault hg' hother
      exact annotations_of_error hfault
  · refine .inr (annotations_eq_nil fun g hg => hfunction ?_)
    exact hg.of_annotate h.function

/-- What stands for a parameter is what stood for it, or what is written now. -/
theorem Spoils.annotation_eq {q r : Param} (hvaries : p.Varies b q r) :
    World.annotation (w.annotate t f p b) v r = w.annotation v q ∨
      World.annotation (w.annotate t f p b) v r = r.hint.getD .any := by
  rcases h.annotations_eq hv hsignature hother with heq | heq
  · simp only [World.annotation, heq, hvaries.name_eq]
    rcases (w.annotations v).lookup q.name with _ | a
    · exact .inr rfl
    · exact .inl rfl
  · right
    rw [World.annotation, heq]
    rfl

/-- What stood for another parameter is what stands for it now, resolved. -/
theorem Spoils.annotation_standsFor {q : Param} (hq : q ∈ signature.params) :
    (w.annotation v q).StandsFor (World.annotation (w.annotate t f p b) v q) := by
  rcases h.annotation_eq hv hsignature hother (.same q) with heq | heq
  · rw [heq]
    exact .refl _
  · rw [heq]
    exact (annotation_of_settled hv hsignature).1 q hq

/-- A parameter is excluded in both worlds or in neither, also the one whose annotation is another:
it is excluded in neither. -/
theorem Spoils.annotation_excludes_iff {q r : Param} (hvaries : p.Varies b q r)
    (hq : q ∈ signature.params) :
    (w.annotation v q).Excludes ↔ (World.annotation (w.annotate t f p b) v r).Excludes := by
  cases hvaries with
  | same => exact (h.annotation_standsFor hv hsignature hother hq).excludes_iff
  | annotated =>
    have hkept : ¬ (w.annotation v p).Excludes := fun hexcludes =>
      h.kept (((annotation_of_settled hv hsignature).1 p hq).excludes_iff.mp hexcludes)
    refine iff_of_false hkept ?_
    rcases h.annotation_eq hv hsignature hother .annotated with heq | heq
    · rwa [heq]
    · rw [heq]
      exact h.stillKept

end

/-! ## Plans

What is described agrees in all that a plan is made of, and plans agree if what they are made of
does, which is known for any relation between annotations. Here it is the relation of what is
resolved to what is written, with one parameter left out of it. -/

section

variable {t : Nat} {f : Function} {p : Param} {b : TypeHint} {func : Value} {config : Config}
  {owner : Option Class} {j j' k k' : Journal} {m n : Metadata}

/-- What is described is described still, if reports can be written, and nothing else is. -/
theorem Spoils.exists_describe_iff (h : w.Spoils t f p b) (hj : w.CanReport (w.unwrap func) j)
    (hj' : w.CanReport (w.unwrap func) j') :
    (∃ m k, w.describe func config owner j = (.ok m, k)) ↔
      ∃ n k, (w.annotate t f p b).describe func config owner j' = (.ok n, k) := by
  have hunwrap := unwrap_annotate (p := p) (b := b) h.function func
  have hreport : (w.annotate t f p b).CanReport ((w.annotate t f p b).unwrap func) j' :=
    hunwrap ▸ hj'.annotate h.function
  rw [hj.exists_describe_iff, hreport.exists_describe_iff, hunwrap,
    isCallable_annotate h.function, scopeChain_annotate h.function,
    (signatureOf_annotate (b := b) h.function h.distinct h.mem _).exists_ok_iff]

end

end World

end CallLog
