import CallLog.Description
import CallLog.Proofs.BoundPoint
import CallLog.Proofs.Plan.ErrorParameter
import CallLog.Proofs.Records
import Mathlib.Data.List.Forall2

/-!
# Described parameters

What `World.describe` gives: one parameter for each parameter of the signature but the receiver,
numbered in order, with its resolved annotation taken apart into what it describes and whether it
excludes the parameter (`describe_eq_ok`). Annotations that cannot be resolved are reported. Where
that report can be written, everything is described that can be called and has a signature and
scopes (`CanReport.exists_describe_iff`), so a function of a named module is (`describe_function`).
-/

namespace CallLog

/-! ## Annotations

An annotation can be marked at the outside only: marks that are put around an annotation with marks
join these. So an exclusion is looked for in one list, and stays there whatever is put around it. -/

/-- An annotation keeps a parameter out of generated messages: one of its marks is the class or a
value of the class for that. -/
def TypeHint.Excludes (hint : TypeHint) : Prop :=
  ∃ base marks, hint = .annotated base marks ∧ (.dontLog ∈ marks ∨ .dontLogValue ∈ marks)

theorem TypeHint.not_excludes {hint : TypeHint} (h : ∀ base marks, hint ≠ .annotated base marks) :
    ¬ hint.Excludes := by
  rintro ⟨base, marks, rfl, -⟩
  exact h base marks rfl

theorem Mark.excludes_iff {mark : Mark} :
    mark.excludes = true ↔ mark = .dontLog ∨ mark = .dontLogValue := by
  cases mark <;> simp [excludes]

theorem TypeHint.unmark_excludes {hint : TypeHint} : hint.unmark.2 = true ↔ hint.Excludes := by
  constructor
  · intro h
    unfold unmark at h
    split at h
    · rename_i base marks
      obtain ⟨mark, hmark, hexcludes⟩ := List.any_eq_true.mp h
      refine ⟨base, marks, rfl, ?_⟩
      rcases Mark.excludes_iff.mp hexcludes with rfl | rfl
      · exact .inl hmark
      · exact .inr hmark
    · cases h
  · rintro ⟨base, marks, rfl, hmarks⟩
    rw [unmark, List.any_eq_true]
    rcases hmarks with h | h
    · exact ⟨_, h, rfl⟩
    · exact ⟨_, h, rfl⟩

/-- Marks of an annotation with marks join those: however annotations with marks are nested, each
mark is one of the whole. -/
theorem TypeHint.marked_annotated (base : TypeHint) (inner outer : List Mark) :
    marked (.annotated base inner) outer = .ok (.annotated base (inner ++ outer)) := rfl

/-- **What is marked for exclusion excludes**, whatever marks come around it. The base that is
marked can be any annotation; if it has marks itself they come first in the list. -/
theorem TypeHint.excludes_of_marked {hint result : TypeHint} {marks : List Mark}
    (h : marked hint marks = .ok result)
    (hmarks : hint.Excludes ∨ .dontLog ∈ marks ∨ .dontLogValue ∈ marks) : result.Excludes := by
  rcases hmarks with ⟨base, inner, rfl, hinner⟩ | hmarks
  · obtain rfl := Except.ok.inj ((marked_annotated base inner marks).symm.trans h)
    refine ⟨base, inner ++ marks, rfl, ?_⟩
    rcases hinner with hinner | hinner
    · exact .inl (List.mem_append_left _ hinner)
    · exact .inr (List.mem_append_left _ hinner)
  · obtain ⟨a, -, h⟩ := Action.except_bind_eq_ok h
    split at h
    · obtain rfl := Except.ok.inj h
      refine ⟨_, _, rfl, ?_⟩
      rcases hmarks with hmarks | hmarks
      · exact .inl (List.mem_append_right _ hmarks)
      · exact .inr (List.mem_append_right _ hmarks)
    · cases h
    · obtain rfl := Except.ok.inj h
      exact ⟨_, _, rfl, hmarks⟩

namespace World

variable {world : World}

/-! ## What is described

A description has no memory of where an annotation came from. It is the resolved one if all of them
could be resolved, and else the one that was declared, and a parameter without any takes everything.
-/

/-- The annotations of a callable by the names of its parameters: the resolved ones, if they can be
resolved. If one of them cannot be resolved, there are none at all here. -/
def annotations (world : World) (target : Value) : List (String × TypeHint) :=
  match world.typeHints world.depth target with
  | .ok hints => hints
  | .error _ => []

/-- The annotation of a parameter of a callable: the resolved one, else the declared one. -/
def annotation (world : World) (target : Value) (p : Param) : TypeHint :=
  ((world.annotations target).lookup p.name).getD (p.hint.getD .any)

/-- The parameters of a callable are described: numbered in order, with their annotations. -/
structure DescribesAll (world : World) (target : Value) (params : List Param)
    (parameters : List Parameter) : Prop where
  length : parameters.length = params.length
  described : ∀ (i : Nat) (p : Param) (q : Parameter), params[i]? = some p →
    parameters[i]? = some q →
      q.index = i ∧ q.name = p.name ∧ q.hint = (world.annotation target p).unmark.1 ∧
        (q.dontLog = true ↔ (world.annotation target p).Excludes)

/-- Parameters are numbered in the order in which they are given, from zero on. -/
theorem describeParams_describes (world : World) (target : Value) (params : List Param) :
    DescribesAll world target params (describeParams (world.annotations target) params) := by
  refine ⟨by rw [describeParams, List.length_map, List.length_zipIdx], fun i p q hp hq => ?_⟩
  rw [describeParams, List.getElem?_map, List.getElem?_zipIdx, hp] at hq
  obtain rfl := Option.some.inj hq
  exact ⟨by simp, rfl, rfl, TypeHint.unmark_excludes⟩

theorem DescribesAll.numbered {target : Value} {params : List Param} {parameters : List Parameter}
    (h : DescribesAll world target params parameters) : Parameter.Numbered parameters := by
  intro i q hq
  have hlt : i < params.length := h.length ▸ (List.getElem?_eq_some_iff.mp hq).1
  exact (h.described i params[i] q (List.getElem?_eq_getElem hlt) hq).1

theorem DescribesAll.names {target : Value} {params : List Param} {parameters : List Parameter}
    (h : DescribesAll world target params parameters) :
    parameters.map Parameter.name = params.map Param.name := by
  refine List.ext_getElem (by rw [List.length_map, List.length_map, h.length]) fun i hi hi' => ?_
  rw [List.length_map] at hi hi'
  rw [List.getElem_map, List.getElem_map]
  exact (h.described i _ _ (List.getElem?_eq_getElem hi') (List.getElem?_eq_getElem hi)).2.1

theorem DescribesAll.hints {target : Value} {params : List Param} {parameters : List Parameter}
    (h : DescribesAll world target params parameters) :
    List.Forall₂ (fun p q => q.hint = (world.annotation target p).unmark.1) params parameters := by
  refine List.forall₂_of_length_eq_of_get h.length.symm fun i hi hi' => ?_
  exact (h.described i _ _ (List.getElem?_eq_getElem hi) (List.getElem?_eq_getElem hi')).2.2.1

/-! ## Descriptions

Describing has several steps, each of which can fail: there must be something to call, it must have
a signature, the annotations are resolved or the failure is reported, and then the scopes are looked
for. Only one of them writes anything. So a description is taken apart into these steps once, in
both directions, and used by what they give. -/

/-- Whether annotations were resolved or reported, what goes on are the annotations as defined
above. -/
theorem hintsOrReport_eq_ok {target : Value} {hints : List (String × TypeHint)} {j j' : Journal}
    (h : world.hintsOrReport target j = (.ok hints, j')) : hints = world.annotations target := by
  rw [hintsOrReport] at h
  rw [annotations]
  rcases htype : world.typeHints world.depth target with f | resolved
  · rw [htype] at h
    obtain ⟨_, k, -, hpure⟩ := Action.bind_eq_ok h
    exact (Except.ok.inj (Prod.mk.inj hpure).1).symm
  · rw [htype] at h
    exact (Except.ok.inj (Prod.mk.inj h).1).symm

/-- Inversion for a pure computation among others. -/
theorem ofExcept_eq_ok {σ α : Type} {x : Except Fault α} {s t : σ} {a : α}
    (h : Action.ofExcept x s = (.ok a, t)) : x = .ok a ∧ t = s := by
  rw [Action.ofExcept_run] at h
  rcases x with f | b
  · cases (Prod.mk.inj h).1
  · exact ⟨congrArg _ (Except.ok.inj (Prod.mk.inj h).1), (Prod.mk.inj h).2.symm⟩

theorem metadata_eq_ok {func : Value} {config : Config} {owner : Option Class}
    {signature : Signature} {hints : List (String × TypeHint)} {m : Metadata}
    (h : world.metadata func config owner signature hints = .ok m) :
    world.scopeChain (world.unwrap func) owner = .ok m.scopes ∧ m.config = config ∧
      m.name = world.callableName (world.unwrap func) ∧
      m.parameters = describeParams hints (world.withoutReceiver func owner signature.params) ∧
      m.returns =
        (TypeHint.unmark ((hints.lookup "return").getD (signature.returns.getD .any))).1 := by
  obtain ⟨scopes, hscopes, h⟩ := Action.except_bind_eq_ok h
  obtain rfl := Except.ok.inj h
  exact ⟨hscopes, rfl, rfl, rfl, rfl⟩

/-- What a description is made of. The last three are pure, so the journal at the end is that after
the annotations were resolved. -/
theorem of_describe {func : Value} {config : Config} {owner : Option Class} {m : Metadata}
    {j j' : Journal} (h : world.describe func config owner j = (.ok m, j')) :
    world.isCallable (world.unwrap func) = true ∧
      ∃ signature, world.signatureOf (world.unwrap func) = .ok signature ∧
        world.hintsOrReport (world.unwrap func) j =
          (.ok (world.annotations (world.unwrap func)), j') ∧
        world.metadata func config owner signature (world.annotations (world.unwrap func)) =
          .ok m := by
  rw [describe] at h
  split at h
  · -- what cannot be called is not described
    obtain ⟨hfault, -⟩ := ofExcept_eq_ok h
    obtain ⟨display, -, hthrow⟩ := Action.except_bind_eq_ok hfault
    cases hthrow
  · rename_i hcallable
    obtain ⟨signature, k, hsignature, h⟩ := Action.bind_eq_ok h
    obtain ⟨hints, k', hhints, h⟩ := Action.bind_eq_ok h
    obtain ⟨hsigned, rfl⟩ := ofExcept_eq_ok hsignature
    obtain rfl := hintsOrReport_eq_ok hhints
    obtain ⟨hmetadata, rfl⟩ := ofExcept_eq_ok h
    exact ⟨by simpa using hcallable, signature, hsigned, hhints, hmetadata⟩

/-- A description is made of these: what was taken apart can be put together again. -/
theorem describe_of {func : Value} {config : Config} {owner : Option Class} {m : Metadata}
    {j j' : Journal} {signature : Signature} {hints : List (String × TypeHint)}
    (hcallable : world.isCallable (world.unwrap func) = true)
    (hsignature : world.signatureOf (world.unwrap func) = .ok signature)
    (hhints : world.hintsOrReport (world.unwrap func) j = (.ok hints, j'))
    (hm : world.metadata func config owner signature hints = .ok m) :
    world.describe func config owner j = (.ok m, j') := by
  rw [describe, hcallable, hsignature]
  simp only [Bool.not_true, Bool.false_eq_true, if_false]
  rw [Action.bind_of_ok (Action.ofExcept_run (.ok signature) j), Action.bind_of_ok hhints, hm]
  rfl

/-- **What is described** are the parameters without the receiver, by their annotations. -/
theorem describe_eq_ok {func : Value} {config : Config} {owner : Option Class} {m : Metadata}
    {j j' : Journal} (h : world.describe func config owner j = (.ok m, j')) :
    m.config = config ∧ ∃ signature, world.signatureOf (world.unwrap func) = .ok signature ∧
      DescribesAll world (world.unwrap func)
        (world.withoutReceiver func owner signature.params) m.parameters := by
  obtain ⟨-, signature, hsignature, -, hmetadata⟩ := of_describe h
  obtain ⟨-, hconfig, -, hparameters, -⟩ := metadata_eq_ok hmetadata
  refine ⟨hconfig, signature, hsignature, ?_⟩
  rw [hparameters]
  exact describeParams_describes world _ _

/-! ## Reports

A report on annotations that cannot be resolved is a record, and so it may be impossible to write:
because of what is bound around, because the callable cannot be displayed, or because what it is
called cannot be written. `CanReport` leaves these out. -/

/-- A report on a callable can be written. -/
structure CanReport (world : World) (target : Value) (j : Journal) : Prop where
  bound : j.IsWritable world.naming
  shown : ∃ display, world.shown target = .ok display
  label : ∀ v, world.label? target .qualname = some v →
    Field.IsWritable world.naming ("callable", v)

/-- What a report on a callable says. -/
def unresolvedFields (world : World) (target : Value) (display : String) (f : Fault) :
    List (String × Value) :=
  [("callable", (world.label? target .qualname).getD (.str display)), ("error", .str f.message)]

theorem reportUnresolved_run {target : Value} {display : String}
    (hdisplay : world.shown target = .ok display) (f : Fault) (j : Journal) :
    world.reportUnresolved target f j =
      match Logger.reported world.naming reporter "debug" "annotations_unresolved" j.bound
        (world.unresolvedFields target display f ++ Logger.handled j.bound (.fault f)) with
      | .ok r => (.ok (), j.logged [r])
      | .error e => (.error (.fault e), j) := by
  rw [reportUnresolved, hdisplay, Action.bind_of_ok (Action.ofExcept_run (.ok display) j)]
  exact Logger.reportHandled_run world.naming reporter rfl (by decide) "annotations_unresolved" rfl
    (.fault f) j

/-- If reports can be written, annotations that cannot be resolved are no obstacle. -/
theorem CanReport.hintsOrReport {target : Value} {j : Journal} (h : world.CanReport target j) :
    ∃ j', world.hintsOrReport target j = (.ok (world.annotations target), j') := by
  rw [World.hintsOrReport, annotations]
  rcases world.typeHints world.depth target with f | hints
  · obtain ⟨display, hdisplay⟩ := h.shown
    have hfields : ∀ field ∈ world.unresolvedFields target display f,
        Field.IsWritable world.naming field := by
      have hlabel : Field.IsWritable world.naming
          ("callable", (world.label? target .qualname).getD (.str display)) := by
        rcases hname : world.label? target .qualname with _ | v
        · exact Field.isWritable_str _ _ _
        · exact h.label v hname
      exact List.forall_mem_cons.mpr
        ⟨hlabel, List.forall_mem_singleton.mpr (Field.isWritable_str _ _ _)⟩
    obtain ⟨r, hr⟩ := Logger.exists_reported_handled h.bound hfields rfl reporter "debug"
      "annotations_unresolved" (.fault f)
    have hreport := reportUnresolved_run hdisplay f j
    rw [hr] at hreport
    exact ⟨j.logged [r], Action.bind_of_ok hreport _⟩
  · exact ⟨j, rfl⟩

/-- **What is described** if reports can be written: what can be called, and has a signature and
scopes. Annotations are not among the conditions: whatever is written there, it is resolved or
reported. -/
theorem CanReport.exists_describe_iff {func : Value} {config : Config} {owner : Option Class}
    {j : Journal} (h : world.CanReport (world.unwrap func) j) :
    (∃ m j', world.describe func config owner j = (.ok m, j')) ↔
      world.isCallable (world.unwrap func) = true ∧
        (∃ signature, world.signatureOf (world.unwrap func) = .ok signature) ∧
        ∃ scopes, world.scopeChain (world.unwrap func) owner = .ok scopes := by
  constructor
  · rintro ⟨m, j', hm⟩
    obtain ⟨hcallable, signature, hsignature, -, hm⟩ := of_describe hm
    exact ⟨hcallable, ⟨signature, hsignature⟩, m.scopes, (metadata_eq_ok hm).1⟩
  · rintro ⟨hcallable, ⟨signature, hsignature⟩, scopes, hscopes⟩
    obtain ⟨j', hhints⟩ := h.hintsOrReport
    obtain ⟨m, hm⟩ : ∃ m, world.metadata func config owner signature
        (world.annotations (world.unwrap func)) = .ok m := by
      rw [metadata, hscopes]
      exact ⟨_, rfl⟩
    exact ⟨m, j', describe_of hcallable hsignature hhints hm⟩

/-! ## Functions are described

A function has a signature and can be called, and it is displayed by its qualified name. So of all
the conditions only the name of its module is left, and that reports can be written. -/

section

variable {t : Nat} {line : List KnownClass} {f : Function}

theorem behind?_object (world : World) (t : Nat) (line : List KnownClass) :
    world.behind? (.object t line) = world.object? t := rfl

theorem signatureOf_function (hf : world.object? t = some (.function f)) :
    world.signatureOf (.object t line) = .ok f.signature := by
  simp only [signatureOf, depth, signatureWithin, behind?_object, hf]

theorem isCallable_function (hf : world.object? t = some (.function f)) :
    world.isCallable (.object t line) = true := by
  simp only [isCallable, behind?_object, hf]

theorem label?_function (hf : world.object? t = some (.function f)) :
    world.label? (.object t line) .qualname = some (.str f.qualname) := by
  unfold label? depth labelWithin
  simp only [asClass?, behind?_object, hf]

theorem canReport_function (hf : world.object? t = some (.function f)) {j : Journal}
    (hj : j.IsWritable world.naming) : world.CanReport (.object t line) j := by
  refine ⟨hj, ⟨world.naming.display t, ?_⟩, fun v hv => ?_⟩
  · rw [World.shown, Value.display]
    exact congrArg Except.ok (String.ofList_toList ..)
  · obtain rfl := Option.some.inj ((label?_function hf).symm.trans hv)
    exact Field.isWritable_str _ _ _

theorem hintsOrReport_function (hf : world.object? t = some (.function f)) {j : Journal}
    (hj : j.IsWritable world.naming) :
    ∃ j', world.hintsOrReport (.object t line) j =
      (.ok (world.annotations (.object t line)), j') :=
  (canReport_function hf hj).hintsOrReport

/-- A callable has its scopes if its module has a name. Whether the module is known does not matter;
without it there are fewer scopes. -/
theorem scopeChain_ok {target : Value} {owner : Option Class} {name : String}
    (hmodule : world.moduleLabel ((owner.map fun c => Value.type (.cls c)).getD target) =
      .str name) : ∃ scopes, world.scopeChain target owner = .ok scopes := by
  unfold scopeChain
  rw [hmodule]
  exact ⟨_, rfl⟩

/-- **A function of a named module is described**, if reports can be written. It may be handed over
with a static or class method around it, since these are taken off first. -/
theorem describe_function (hf : world.object? t = some (.function f)) {func : Value}
    (hfunc : world.unwrap func = .object t line) {owner : Option Class} {name : String}
    (hmodule : world.moduleLabel
      ((owner.map fun c => Value.type (.cls c)).getD (.object t line)) = .str name)
    {j : Journal} (hj : j.IsWritable world.naming) (config : Config) :
    ∃ m j', world.describe func config owner j = (.ok m, j') := by
  obtain ⟨scopes, hscopes⟩ := scopeChain_ok hmodule
  have hreport : world.CanReport (world.unwrap func) j := hfunc ▸ canReport_function hf hj
  rw [hreport.exists_describe_iff, hfunc]
  exact ⟨isCallable_function hf, ⟨f.signature, signatureOf_function hf⟩, scopes, hscopes⟩

end

end World

end CallLog
