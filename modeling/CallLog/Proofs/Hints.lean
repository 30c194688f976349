import CallLog.Proofs.Context
import CallLog.Proofs.LogPoint.Exclusion
import CallLog.Proofs.LogPoint.Generated
import CallLog.Proofs.Signature
import Mathlib.Data.List.Nodup

/-!
# Exclusion and unresolved annotations

An annotation that is written as text excludes a parameter only once it is resolved, and the
annotations of a function are resolved together or not at all. `Resolves` says that all of them can
be, and `HasHintsOf` which function the annotations of a callable are those of.

The main statement is `described_exclusion`. A parameter is kept out of generated messages if its
annotation excludes it as it is written, or if it does so resolved and every other annotation of the
function can be resolved too. One annotation that cannot be resolved gives away what a text beside
it excludes.
-/

namespace CallLog

/-! ## Resolved annotations

A text that stands for an annotation is read as an expression, and the expression is evaluated among
the members of the module. Two forms of expressions are enough for the examples below: a name, and a
name that is marked with another one. -/

namespace Expression

/-- Whether an expression is a name. -/
def isName (n : String) : Expression → Bool
  | .name m => m = n
  | _ => false

/-- Whether an expression marks a name with another name. -/
def isMarking (base mark : String) : Expression → Bool
  | .subscript (.name "Annotated") (.tuple [.name m, .name n]) => m = base && n = mark
  | _ => false

/-- A text is read as an expression if its characters have the form of one that is valid. -/
theorem read?_of_grammar {s : String} {is : Expression → Bool} {e : Expression}
    (hplain : s.toList.contains '\x00' = false)
    (hread : (Grammar.read? (unstarred s.toList)).any is = true)
    (his : ∀ f, is f = true → f = e) (hvalid : isValid {} e = true) : read? s = some e := by
  obtain ⟨f, hf, hform⟩ := (Option.any_eq_true _ _).mp hread
  obtain rfl := his f hform
  simp only [read?, hplain, hf]
  exact if_pos hvalid

theorem read?_name {s n : String} (hplain : s.toList.contains '\x00' = false)
    (hread : (Grammar.read? (unstarred s.toList)).any (isName n) = true) :
    read? s = some (.name n) := by
  refine read?_of_grammar hplain hread (fun f hf => ?_) (by simp [isValid, parts])
  rw [isName.eq_def] at hf
  split at hf
  · obtain rfl := of_decide_eq_true hf
    rfl
  · cases hf

theorem read?_marking {s base mark : String} (hplain : s.toList.contains '\x00' = false)
    (hread : (Grammar.read? (unstarred s.toList)).any (isMarking base mark) = true) :
    read? s = some (.subscript (.name "Annotated") (.tuple [.name base, .name mark])) := by
  refine read?_of_grammar hplain hread (fun f hf => ?_) (by simp [isValid, parts])
  rw [isMarking.eq_def] at hf
  split at hf
  · obtain ⟨hbase, hmark⟩ := Bool.and_eq_true_iff.mp hf
    rw [of_decide_eq_true hbase, of_decide_eq_true hmark]
  · cases hf

end Expression

namespace World

variable {world : World}

/-- A text is resolved by what its expression stands for. That may hold texts again; the text itself
is noted, so that one that leads back to itself is found out. -/
theorem resolveDeclared_text {home : Nat} {s : String} {e : Expression}
    (h : Expression.read? s = some e) : world.resolveDeclared home (.text s) =
      (world.readText home s >>= world.resolveHint home (resolutionDepth - 1) [s]) := by
  have hitem : declaredItem (.text s) = .ok (.reference s) := by
    rw [declaredItem, genericItem, TypeHint.nested, Expression.isExpression, h]
    · rfl
    · exact nofun
  rw [resolveDeclared, hitem]
  rfl

/-- All annotations of a function can be resolved. The annotation of the result counts like those of
the parameters, though no parameter is described by it. -/
structure Resolves (world : World) (f : Function) : Prop where
  params : ∀ p ∈ f.signature.params, ∀ a, p.hint = some a →
    ∃ hint, world.resolveDeclared f.home a = .ok hint
  returns : ∀ a, f.signature.returns = some a → ∃ hint, world.resolveDeclared f.home a = .ok hint

theorem mem_keptOrder {p : Param} {params : List Param} :
    p ∈ keptOrder params ↔ p ∈ params := by
  rcases hkind : p.kind with _ | _ | _ | _ | _ <;> simp [keptOrder, hkind]

theorem mem_declaredHints {signature : Signature} {e : String × TypeHint} :
    e ∈ declaredHints signature ↔
      (∃ p ∈ signature.params, p.hint = some e.2 ∧ p.name = e.1) ∨
        e.1 = "return" ∧ signature.returns = some e.2 := by
  obtain ⟨name, a⟩ := e
  simp only [declaredHints, List.mem_append, List.mem_filterMap, mem_keptOrder,
    Option.map_eq_some_iff, Option.mem_toList, Prod.mk.injEq]
  constructor
  · rintro (⟨p, hp, b, hb, rfl, rfl⟩ | ⟨b, hb, rfl, rfl⟩)
    · exact .inl ⟨p, hp, hb, rfl⟩
    · exact .inr ⟨rfl, hb⟩
  · rintro (⟨p, hp, ha, rfl⟩ | ⟨rfl, ha⟩)
    · exact .inl ⟨p, hp, a, ha, rfl, rfl⟩
    · exact .inr ⟨a, ha, rfl, rfl⟩

/-- They are the annotations that are gone through, in the order in which they are. -/
theorem resolves_iff {f : Function} : world.Resolves f ↔
    ∀ e ∈ declaredHints f.signature, ∃ hint, world.resolveDeclared f.home e.2 = .ok hint := by
  constructor
  · rintro ⟨hparams, hreturns⟩ e he
    rcases mem_declaredHints.mp he with ⟨p, hp, ha, -⟩ | ⟨-, ha⟩
    · exact hparams p hp _ ha
    · exact hreturns _ ha
  · intro h
    refine ⟨fun p hp a ha => ?_, fun a ha => ?_⟩
    · exact h (p.name, a) (mem_declaredHints.mpr (.inl ⟨p, hp, ha, rfl⟩))
    · exact h ("return", a) (mem_declaredHints.mpr (.inr ⟨rfl, ha⟩))

/-- Where names are distinct, the annotation that is declared for a parameter is found under its
name. The one of the result comes after those of all parameters, so it does not hide one. -/
theorem lookup_declaredHints {signature : Signature} (hsignature : signature.WellFormed)
    {p : Param} (hp : p ∈ signature.params) {a : TypeHint} (ha : p.hint = some a) :
    (declaredHints signature).lookup p.name = some a := by
  have honly : ∀ q ∈ keptOrder signature.params, q.name = p.name → q = p := fun q hq hname =>
    List.inj_on_of_nodup_map hsignature.distinct (mem_keptOrder.mp hq) hp hname
  have hmem : p ∈ keptOrder signature.params := mem_keptOrder.mpr hp
  rw [declaredHints, List.lookup_append]
  suffices h : ((keptOrder signature.params).filterMap
      fun p => p.hint.map fun a => (p.name, a)).lookup p.name = some a by rw [h]; rfl
  revert honly hmem
  induction keptOrder signature.params with
  | nil => exact fun _ hmem => absurd hmem List.not_mem_nil
  | cons q ps ih =>
    intro honly hmem
    obtain ⟨hq, honly⟩ := List.forall_mem_cons.mp honly
    by_cases hname : q.name = p.name
    · obtain rfl := hq hname
      rw [List.filterMap_cons_some (by rw [ha, Option.map_some]), List.lookup_cons_self]
    · have hrest := ih honly ((List.mem_cons.mp hmem).resolve_left fun h => hname (h ▸ rfl))
      rcases hhint : q.hint with _ | b
      · rwa [List.filterMap_cons_none (by rw [hhint, Option.map_none])]
      · rwa [List.filterMap_cons_some (by rw [hhint, Option.map_some]), Document.lookup_cons,
          if_neg (Ne.symm hname)]

/-- **Annotations are resolved together or not at all.** If each can be resolved, each is found
under the name that it is declared for; if one cannot, nothing of what was resolved before it is
left. -/
theorem functionHints_cases (world : World) (f : Function) :
    (world.Resolves f ∧ ∃ hints, world.functionHints f = .ok hints ∧
      ∀ name a, (declaredHints f.signature).lookup name = some a →
        ∃ hint, world.resolveDeclared f.home a = .ok hint ∧ hints.lookup name = some hint) ∨
    (¬ world.Resolves f ∧ ∃ fault, world.functionHints f = .error fault) := by
  rw [resolves_iff, functionHints]
  induction declaredHints f.signature with
  | nil => exact .inl ⟨nofun, [], rfl, nofun⟩
  | cons e declared ih =>
    obtain ⟨n, a⟩ := e
    rw [List.forall_mem_cons, List.mapM_cons]
    dsimp only
    rcases ha : world.resolveDeclared f.home a with fault | hint
    · exact .inr ⟨by simp, fault, rfl⟩
    · rcases ih with ⟨hall, hints, hhints, hfound⟩ | ⟨hnot, fault, hfault⟩
      · rw [hhints]
        refine .inl ⟨⟨⟨hint, rfl⟩, hall⟩, (n, hint) :: hints, rfl, fun name b hb => ?_⟩
        rw [Document.lookup_cons] at hb ⊢
        split at hb
        · rename_i hname
          obtain rfl := Option.some.inj hb
          exact ⟨hint, ha, if_pos hname⟩
        · rename_i hname
          rw [if_neg hname]
          exact hfound name b hb
      · rw [hfault]
        exact .inr ⟨fun h => hnot h.2, fault, rfl⟩

end World

/-! ## The function of a callable

A callable may be a function, or stand around one in many ways. Its signature and its annotations
are both looked for inside, and on the same way: that is why what is described is consistent, with
parameters and annotations of one function. -/

namespace Signature

/-- A signature is what is left of another one. -/
structure IsRestOf (rest signature : Signature) : Prop where
  params : rest.params ⊆ signature.params
  returns : rest.returns = signature.returns

theorem isRestOf_of_bound {signature bound : Signature} (h : signature.bound = .ok bound) :
    bound.IsRestOf signature := by
  rw [Signature.bound] at h
  split at h
  · rename_i p ps hparams
    split at h
    · obtain rfl := Except.ok.inj h
      exact ⟨hparams ▸ List.subset_cons_self p ps, rfl⟩
    · obtain rfl := Except.ok.inj h
      exact ⟨hparams ▸ List.subset_cons_self p ps, rfl⟩
    · obtain rfl := Except.ok.inj h
      exact ⟨List.Subset.refl _, rfl⟩
    all_goals cases h
  · cases h

end Signature

/-- The callable that an object has its annotations from. -/
def Object.hinted? : Object → Option Value
  | .logged l => some l.wrapped
  | .staticMethod func _ | .classMethod func _ | .method func _ => some func
  | _ => none

namespace World

variable {world : World}

/-- The annotations of a callable are those of a function: the callable is the function, or has them
from a callable whose annotations these are. -/
inductive HasHintsOf (world : World) : Value → Function → Prop where
  | function {t : Nat} {line : List KnownClass} {f : Function}
      (ht : world.object? t = some (.function f)) : HasHintsOf world (.object t line) f
  | inside {t : Nat} {line : List KnownClass} {object : Object} {v : Value} {f : Function}
      (ht : world.object? t = some object) (hv : object.hinted? = some v)
      (h : HasHintsOf world v f) : HasHintsOf world (.object t line) f

/-- There is at most one such function: each object has at most one thing inside. -/
theorem HasHintsOf.unique {v : Value} {f g : Function} (hf : world.HasHintsOf v f)
    (hg : world.HasHintsOf v g) : f = g := by
  induction hf with
  | function ht =>
    cases hg with
    | function ht' => simpa using ht.symm.trans ht'
    | inside ht' hv _ =>
      obtain rfl := Option.some.inj (ht.symm.trans ht')
      cases hv
  | inside ht hv _ ih =>
    cases hg with
    | function ht' =>
      obtain rfl := Option.some.inj (ht.symm.trans ht')
      cases hv
    | inside ht' hv' hg =>
      obtain rfl := Option.some.inj (ht.symm.trans ht')
      obtain rfl := Option.some.inj (hv.symm.trans hv')
      exact ih hg

/-- What is found for a callable is nothing, or the annotations of its function. Nothing is found
where the way inward ends at something that has no annotations. -/
theorem typeHints_eq_ok {fuel : Nat} {v : Value} {hints : List (String × TypeHint)}
    (h : world.typeHints fuel v = .ok hints) :
    hints = [] ∨ ∃ f, world.HasHintsOf v f ∧ world.functionHints f = .ok hints := by
  induction fuel generalizing v with
  | zero => cases h
  | succ fuel ih =>
    cases v with
    | object t line =>
      have hinside {object : Object} {func : Value} (ht : world.object? t = some object)
          (hfunc : object.hinted? = some func) (h : world.typeHints fuel func = .ok hints) :
          hints = [] ∨ ∃ f, world.HasHintsOf (.object t line) f ∧
            world.functionHints f = .ok hints :=
        (ih h).imp_right fun ⟨f, hf, hhints⟩ => ⟨f, .inside ht hfunc hf, hhints⟩
      simp only [typeHints, behind?_object] at h
      split at h
      case h_1 f ht => exact .inr ⟨f, .function ht, h⟩
      case h_2 ht | h_3 ht | h_4 ht | h_5 ht => exact hinside ht rfl h
      case h_6 | h_7 | h_8 => exact .inl (Except.ok.inj h).symm
      case h_9 => cases h
    | type a =>
      cases a with
      | cls c => exact .inl (Except.ok.inj h).symm
      | _ => cases h
    | _ => cases h

/-- **What can be called has the annotations of its function**, and a rest of its signature: the
signature and the annotations are found on the same way inward. -/
theorem HasHintsOf.of_signatureWithin {v : Value} {f : Function} (hv : world.HasHintsOf v f)
    {fuel : Nat} {signature : Signature} (h : world.signatureWithin fuel v = .ok signature) :
    world.typeHints fuel v = world.functionHints f ∧ signature.IsRestOf f.signature := by
  induction hv generalizing fuel signature with
  | function ht =>
    rcases fuel with _ | fuel
    · cases h
    · simp only [signatureWithin, typeHints, behind?_object, ht] at h ⊢
      obtain rfl := Except.ok.inj h
      exact ⟨trivial, List.Subset.refl _, rfl⟩
  | @inside t line object v f ht hv _ ih =>
    rcases fuel with _ | fuel
    · cases h
    · cases object with
      | logged l =>
        obtain rfl := Option.some.inj hv
        simp only [signatureWithin, typeHints, behind?_object, ht] at h ⊢
        exact ih h
      | staticMethod func labels =>
        obtain rfl := Option.some.inj hv
        simp only [signatureWithin, typeHints, behind?_object, ht] at h ⊢
        exact ih h
      | method func receiver =>
        obtain rfl := Option.some.inj hv
        simp only [signatureWithin, typeHints, behind?_object, ht] at h ⊢
        obtain ⟨inner, hinner, hbound⟩ := Action.except_bind_eq_ok h
        obtain ⟨hhints, hparams, hreturns⟩ := ih hinner
        have hrest := Signature.isRestOf_of_bound hbound
        exact ⟨hhints, List.Subset.trans hrest.params hparams, hrest.returns.trans hreturns⟩
      | classMethod func labels =>
        -- only what stands behind a class method can be called
        simp only [signatureWithin, behind?_object, ht, instanceClass?] at h
        cases h
      | _ => cases hv

/-! ## Described parameters

A parameter is described with its resolved annotation if there is one, and else with the declared
one. So an exclusion counts in two cases, and `ExcludesFrom` joins them. -/

theorem annotations_of_ok {target : Value} {hints : List (String × TypeHint)}
    (h : world.typeHints world.depth target = .ok hints) : world.annotations target = hints := by
  rw [annotations, h]

theorem annotations_of_error {target : Value} {fault : Fault}
    (h : world.typeHints world.depth target = .error fault) : world.annotations target = [] := by
  rw [annotations, h]

/-- A callable that has the annotations of no function is described by those that are written. -/
theorem annotations_eq_nil {target : Value} (h : ∀ f, ¬ world.HasHintsOf target f) :
    world.annotations target = [] := by
  rcases hhints : world.typeHints world.depth target with fault | hints
  · exact annotations_of_error hhints
  · rcases typeHints_eq_ok hhints with rfl | ⟨f, hf, -⟩
    · exact annotations_of_ok hhints
    · exact absurd hf (h f)

/-- What excludes as it is written excludes once it is resolved: marks are kept when what they are
put around is resolved. -/
theorem excludes_of_resolveDeclared {home : Nat} {a hint : TypeHint}
    (h : world.resolveDeclared home a = .ok hint) (ha : a.Excludes) : hint.Excludes := by
  obtain ⟨base, marks, rfl, hmarks⟩ := ha
  exact excludes_of_resolveHint h (.inl hmarks)

/-- An annotation keeps a parameter of a callable out of generated messages: as it is written, or
resolved, if the function's annotations can be resolved. -/
def ExcludesFrom (world : World) (target : Value) (a : TypeHint) : Prop :=
  a.Excludes ∨ ∃ f hint, world.HasHintsOf target f ∧ world.Resolves f ∧
    world.resolveDeclared f.home a = .ok hint ∧ hint.Excludes

/-- **When a parameter is described as excluded**, told by its declared annotation. If the
function's annotations can be resolved, it is the resolved one that counts, and that excludes if the
declared one does; if they cannot, it is the declared one. -/
theorem annotation_excludes_iff {target : Value} {signature : Signature}
    (hsignature : world.signatureOf target = .ok signature)
    (hformed : ∀ f, world.HasHintsOf target f → f.signature.WellFormed) {p : Param}
    (hp : p ∈ signature.params) {a : TypeHint} (ha : p.hint = some a) :
    (world.annotation target p).Excludes ↔ world.ExcludesFrom target a := by
  rw [World.annotation, ha, Option.getD_some]
  by_cases hfunction : ∃ f, world.HasHintsOf target f
  · obtain ⟨f, hf⟩ := hfunction
    obtain ⟨hhints, hparams, -⟩ := hf.of_signatureWithin hsignature
    rcases world.functionHints_cases f with
      ⟨hresolves, hints, hresolved, hfound⟩ | ⟨hunresolved, fault, hfault⟩
    · -- all are resolved, and this one with them
      obtain ⟨hint, hhint, hlookup⟩ :=
        hfound p.name a (lookup_declaredHints (hformed f hf) (hparams hp) ha)
      rw [annotations_of_ok (hhints.trans hresolved), hlookup, Option.getD_some]
      constructor
      · exact fun hexcludes => .inr ⟨f, hint, hf, hresolves, hhint, hexcludes⟩
      · rintro (hexcludes | ⟨f', hint', hf', -, hhint', hexcludes⟩)
        · exact excludes_of_resolveDeclared hhint hexcludes
        · obtain rfl := hf.unique hf'
          obtain rfl := Except.ok.inj (hhint.symm.trans hhint')
          exact hexcludes
    · -- none is resolved
      rw [annotations_of_error (hhints.trans hfault), List.lookup_nil, Option.getD_none]
      refine ⟨.inl, ?_⟩
      rintro (hexcludes | ⟨f', hint, hf', hresolves, -⟩)
      · exact hexcludes
      · obtain rfl := hf.unique hf'
        exact absurd hresolves hunresolved
  · rw [not_exists] at hfunction
    rw [annotations_eq_nil hfunction, List.lookup_nil, Option.getD_none]
    refine ⟨.inl, ?_⟩
    rintro (hexcludes | ⟨f, hint, hf, -⟩)
    · exact hexcludes
    · exact absurd hf (hfunction f)

end World

/-! ## Plans with a generated message

A generated message has a slot for each parameter that is not excluded, but for the error parameter,
which the plan looks at by itself. So an exclusion decides exactly what a plan looks at. -/

/-- A plan looks at the argument at an index: a rule shows it, or it is the error argument. -/
def Plan.LooksAt (plan : Plan) (i : Int) : Prop :=
  (∃ rule ∈ plan.parameters, rule.isLiveFor i = true) ∨
    ∃ e, plan.errorParameter = some e ∧ e.index = i

namespace Metadata

variable {metadata : Metadata} {i : Nat} {q : Parameter}

/-- With a generated message a plan looks at no parameter that is excluded. -/
theorem dontLog_of_looksAt (hmessage : metadata.config.message = "")
    (hnumbered : Parameter.Numbered metadata.parameters) {plan : Plan}
    (hplan : metadata.plan = .ok plan) (hq : metadata.parameters[i]? = some q)
    (h : plan.LooksAt i) : q.dontLog = false := by
  rcases h with ⟨rule, hrule, hlive⟩ | ⟨e, he, hindex⟩
  · cases pointsIn_of_plan hnumbered hplan rule hrule with
    | static => cases hlive
    | @live n p hp hvisible =>
      obtain rfl : n = i := by
        rw [Rule.isLiveFor, decide_eq_true_iff] at hlive
        exact Int.ofNat_inj.mp hlive
      obtain ⟨q', hq', hlog | hmentions⟩ := hvisible
      · obtain rfl := Option.some.inj (hq.symm.trans hq')
        exact hlog
      · exact absurd hmentions (Config.not_mentions_of_empty hmessage _)
  · obtain ⟨n, p, hp, hlog, hn, -⟩ := errorParameter_visible hnumbered hplan he
    rw [hn] at hindex
    obtain rfl := Int.ofNat_inj.mp hindex
    obtain rfl := Option.some.inj (hq.symm.trans hp)
    exact hlog

/-- The rules of a generated message look at every parameter that is not excluded, or it is the
error parameter. -/
theorem looksAt_of_dontLog (hnumbered : Parameter.Numbered metadata.parameters)
    (hq : metadata.parameters[i]? = some q) (hlog : q.dontLog = false) (message : String) :
    (metadata.planOf (Rule.autoRules metadata.parameters) message).LooksAt i := by
  have hindex : q.index = i := hnumbered i q hq
  have hlive : (Rule.ofParameter q).isLiveFor i = true := by
    simp [Rule.ofParameter, Rule.isLiveFor, hindex]
  have hrule : Rule.ofParameter q ∈ Rule.autoRules metadata.parameters := by
    refine List.mem_map_of_mem (List.mem_filter.mpr ⟨List.mem_of_getElem? hq, ?_⟩)
    simp [hlog]
  rw [Plan.LooksAt, planOf]
  rcases he : metadata.errorParameter (Rule.autoRules metadata.parameters) with _ | e
  · exact .inl ⟨_, by rwa [withoutError_of_none he], hlive⟩
  · obtain ⟨n, p, hn, hp, -, rfl⟩ := errorParameter_eq_some he
    by_cases hni : n = i
    · subst hni
      obtain rfl := Option.some.inj (hq.symm.trans hp)
      exact .inr ⟨_, rfl, hindex⟩
    · refine .inl ⟨_, ?_, hlive⟩
      rw [withoutError_of_some he hn]
      refine List.mem_filter.mpr ⟨hrule, ?_⟩
      have hne : (i : Int) ≠ n := fun h => hni (Int.ofNat_inj.mp h).symm
      simp [Rule.ofParameter, Rule.isLiveFor, hindex, hne]

/-- **A generated message is planned** for the parameters that are not excluded, and for no
others. -/
theorem exists_plan_looksAt (hmessage : metadata.config.message = "")
    (hnumbered : Parameter.Numbered metadata.parameters) :
    ∃ plan, metadata.plan = .ok plan ∧ ∀ (i : Nat) (q : Parameter),
      metadata.parameters[i]? = some q → (plan.LooksAt i ↔ q.dontLog = false) := by
  have hplan := plan_of_generated hmessage hnumbered
  refine ⟨_, hplan, fun i q hq => ⟨dontLog_of_looksAt hmessage hnumbered hplan hq, ?_⟩⟩
  exact fun hlog => looksAt_of_dontLog hnumbered hq hlog _

end Metadata

/-! ## Descriptions

What was shown of annotations is carried over to what is described of a parameter, at the index that
it has without the receiver. -/

namespace World

variable {world : World}

/-- What a described parameter says that is declared with an annotation. -/
structure Settles (world : World) (target : Value) (m : Metadata) (a : TypeHint) (i : Nat)
    (q : Parameter) : Prop where
  dontLog_iff : q.dontLog = true ↔ world.ExcludesFrom target a
  /-- an annotation that excludes as it is written does so, whatever stands beside it -/
  written : a.Excludes → q.dontLog = true
  /-- one that excludes once it is resolved does so if all beside it can be resolved -/
  resolved : ∀ f hint, world.HasHintsOf target f → world.resolveDeclared f.home a = .ok hint →
    hint.Excludes → (q.dontLog = true ↔ a.Excludes ∨ world.Resolves f)
  /-- a generated message shows the parameter in all other cases -/
  plan : m.config.message = "" →
    ∃ plan, m.plan = .ok plan ∧ (plan.LooksAt i ↔ ¬ world.ExcludesFrom target a)

theorem withoutReceiver_subset (world : World) {func : Value} {owner : Option Class}
    {params : List Param} : world.withoutReceiver func owner params ⊆ params := by
  rw [withoutReceiver]
  split
  · exact List.drop_subset 1 params
  · exact List.Subset.refl params

/-- What is described of a parameter tells what becomes of its exclusion. -/
theorem settles_of_describe {func : Value} {config : Config} {owner : Option Class} {m : Metadata}
    {j j' : Journal} (h : world.describe func config owner j = (.ok m, j'))
    {signature : Signature} (hsignature : world.signatureOf (world.unwrap func) = .ok signature)
    (hformed : ∀ f, world.HasHintsOf (world.unwrap func) f → f.signature.WellFormed) {i : Nat}
    {p : Param} (hp : (world.withoutReceiver func owner signature.params)[i]? = some p)
    {a : TypeHint} (ha : p.hint = some a) :
    ∃ q, m.parameters[i]? = some q ∧ q.name = p.name ∧
      world.Settles (world.unwrap func) m a i q := by
  obtain ⟨-, signature', hsignature', hdescribes⟩ := describe_eq_ok h
  obtain rfl := Except.ok.inj (hsignature.symm.trans hsignature')
  have hlt : i < m.parameters.length := hdescribes.length ▸ (List.getElem?_eq_some_iff.mp hp).1
  have hq := List.getElem?_eq_getElem hlt
  obtain ⟨-, hname, -, hdontLog⟩ := hdescribes.described i p _ hp hq
  have hmem : p ∈ signature.params := world.withoutReceiver_subset (List.mem_of_getElem? hp)
  have hiff := hdontLog.trans (annotation_excludes_iff hsignature hformed hmem ha)
  refine ⟨_, hq, hname, hiff, fun hexcludes => hiff.mpr (.inl hexcludes), ?_, fun hmessage => ?_⟩
  · intro f hint hf hhint hexcludes
    refine hiff.trans (or_congr_right ⟨?_, fun hresolves => ?_⟩)
    · rintro ⟨f', -, hf', hresolves, -⟩
      obtain rfl := hf.unique hf'
      exact hresolves
    · exact ⟨f, hint, hf, hresolves, hhint, hexcludes⟩
  · obtain ⟨plan, hplan, hlooks⟩ := Metadata.exists_plan_looksAt hmessage hdescribes.numbered
    refine ⟨plan, hplan, (hlooks i _ hq).trans ?_⟩
    rw [← hiff, Bool.not_eq_true]

/-- **What becomes of an exclusion** when a callable is described. As it is written it counts; as a
text it counts only if every annotation of the function can be resolved. Annotations that cannot be
resolved keep no function from being described. -/
theorem described_exclusion {func : Value} {signature : Signature}
    (hsignature : world.signatureOf (world.unwrap func) = .ok signature)
    (hformed : ∀ f, world.HasHintsOf (world.unwrap func) f → f.signature.WellFormed)
    (config : Config) (owner : Option Class) (j : Journal) :
    (∀ t line f name, world.unwrap func = .object t line → world.object? t = some (.function f) →
      world.moduleLabel ((owner.map fun c => Value.type (.cls c)).getD (.object t line)) =
        .str name → j.IsWritable world.naming →
      ∃ m j', world.describe func config owner j = (.ok m, j')) ∧
    ∀ m j', world.describe func config owner j = (.ok m, j') →
      ∀ i p a, (world.withoutReceiver func owner signature.params)[i]? = some p → p.hint = some a →
        ∃ q, m.parameters[i]? = some q ∧ q.name = p.name ∧
          world.Settles (world.unwrap func) m a i q := by
  constructor
  · intro t line f name hfunc hf hmodule hj
    exact describe_function hf hfunc hmodule hj config
  · intro m j' h i p a hp ha
    exact settles_of_describe h hsignature hformed hp ha

/-- A function with a parameter that a text excludes, and another one whose annotation stands for
nothing. -/
def register : Function where
  name := "register"
  qualname := "register"
  module := .str "m"
  signature := { params := [
    { name := "password", hint := some (.text "Annotated[str, DontLog]") },
    { name := "other", hint := some (.text "Missing") }] }
  home := 0

/-- A world with a module and the function in it. -/
def registerWorld : World where
  objects := #[.module "m" [("register", .object 1 [.object])], .function register]

/-- What is described of the function. -/
def registerMetadata : Metadata where
  name := "register"
  parameters := [⟨0, "password", .text "Annotated[str, DontLog]", false⟩,
    ⟨1, "other", .text "Missing", false⟩]
  scopes := [⟨"m", .module, none⟩]

/-- The plan for the function. -/
def registerPlan : Plan where
  logger := "m"
  level := .debug
  message := "register \x7b\x7d \x7b\x7d"
  parameters := [.live 0 "password" (.text "Annotated[str, DontLog]"),
    .live 1 "other" (.text "Missing")]
  logResult := true

theorem read?_password : Expression.read? "Annotated[str, DontLog]" =
    some (.subscript (.name "Annotated") (.tuple [.name "str", .name "DontLog"])) :=
  Expression.read?_marking (by decide) (by decide +kernel)

theorem read?_missing : Expression.read? "Missing" = some (.name "Missing") :=
  Expression.read?_name (by decide) (by decide +kernel)

theorem resolveDeclared_password :
    registerWorld.resolveDeclared 0 (.text "Annotated[str, DontLog]") =
      .ok (.annotated (.ofKnown .str) [.dontLog]) := by
  rw [resolveDeclared_text read?_password, readText, evaluate, read?_password]
  rfl

theorem not_resolves_register : ¬ registerWorld.Resolves register := by
  intro h
  obtain ⟨hint, hhint⟩ := h.params ⟨"other", .either, some (.text "Missing"), none⟩
    (by simp [register]) _ rfl
  rw [register, resolveDeclared_text read?_missing, readText, evaluate, read?_missing] at hhint
  cases hhint

/-- The function is described by its annotations as they are written. -/
theorem describe_register :
    ∃ j, registerWorld.describe (.object 1 [.object]) {} none {} = (.ok registerMetadata, j) := by
  have hregister : registerWorld.object? 1 = some (.function register) := rfl
  have hunwrap : registerWorld.unwrap (.object 1 [.object]) = .object 1 [.object] := rfl
  have hhints : registerWorld.typeHints registerWorld.depth (.object 1 [.object]) =
      registerWorld.functionHints register := rfl
  have hannotations : registerWorld.annotations (.object 1 [.object]) = [] := by
    rcases registerWorld.functionHints_cases register with ⟨h, -⟩ | ⟨-, fault, hfault⟩
    · exact absurd h not_resolves_register
    · exact annotations_of_error (hhints.trans hfault)
  have hsignature : Action.ofExcept (registerWorld.signatureOf (.object 1 [.object])) {} =
      (.ok register.signature, ({} : Journal)) := rfl
  have hwritable : ({} : Journal).IsWritable registerWorld.naming := fun _ h =>
    absurd h List.not_mem_nil
  obtain ⟨j, hreport⟩ : ∃ j, registerWorld.hintsOrReport (.object 1 [.object]) {} = (.ok [], j) :=
    hannotations ▸ hintsOrReport_function hregister hwritable
  refine ⟨j, ?_⟩
  rw [describe, hunwrap, isCallable_function hregister]
  simp only [Bool.not_true, Bool.false_eq_true, if_false]
  rw [Action.bind_of_ok hsignature, Action.bind_of_ok hreport]
  rfl

theorem described_exclusion_register :
    ∃ j, registerWorld.describe (.object 1 [.object]) {} none {} = (.ok registerMetadata, j) ∧
      ∃ q, registerMetadata.parameters[0]? = some q ∧ q.name = "password" ∧
        registerWorld.Settles (.object 1 [.object]) registerMetadata
          (.text "Annotated[str, DontLog]") 0 q := by
  have hformed : ∀ f, registerWorld.HasHintsOf (.object 1 [.object]) f →
      f.signature.WellFormed := by
    intro f hf
    obtain rfl := hf.unique (.function (f := register) rfl)
    exact ⟨by decide, by decide⟩
  obtain ⟨j, hdescribe⟩ := describe_register
  have hpassword : (registerWorld.withoutReceiver (.object 1 [.object]) none
      register.signature.params)[0]? =
        some { name := "password", hint := some (.text "Annotated[str, DontLog]") } := rfl
  have hregister : registerWorld.signatureOf (registerWorld.unwrap (.object 1 [.object])) =
      .ok register.signature := rfl
  obtain ⟨-, hsettles⟩ := described_exclusion hregister hformed {} none {}
  exact ⟨j, hdescribe, hsettles _ _ hdescribe 0 _ _ hpassword rfl⟩

/-- **A text that excludes is lost** beside an annotation that stands for nothing. -/
theorem register_shows_password :
    registerWorld.resolveDeclared 0 (.text "Annotated[str, DontLog]") =
        .ok (.annotated (.ofKnown .str) [.dontLog]) ∧
      (TypeHint.annotated (.ofKnown .str) [.dontLog]).Excludes ∧
      (∃ j, registerWorld.describe (.object 1 [.object]) {} none {} =
        (.ok registerMetadata, j)) ∧
      (registerMetadata.parameters.map Parameter.dontLog) = [false, false] ∧
      registerMetadata.plan = .ok registerPlan ∧ registerPlan.LooksAt 0 :=
  ⟨resolveDeclared_password, ⟨_, _, rfl, .inl List.mem_cons_self⟩, describe_register, rfl, rfl,
    .inl ⟨_, List.mem_cons_self, rfl⟩⟩

end World

end CallLog
