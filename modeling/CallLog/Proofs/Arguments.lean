import CallLog.Evaluation.Call
import CallLog.Proofs.Description
import CallLog.Proofs.Plan.Visible
import CallLog.Proofs.Signature
import CallLog.Proofs.Task

/-!
# Described parameters and shown arguments

The parameters of a callable are described once, and the arguments of each call are bound on their
own. Both leave the receiver out. The main statement is `arguments_agree`: for a logged function
around a function the two fit together, whatever the signature is, however the function was given to
be logged, and whichever class it belongs to. The value at an index is the one that the function
gets for the parameter that is described at that index.
-/

namespace CallLog

/-! ## Frames -/

/-- A parameter stands for its value, if no other one has its name. The body of a function looks
values up by name, while a plan points at them by number, so this is where the two meet. -/
theorem Frame.get_ofCall {f : Function} (hdistinct : (f.signature.params.map Param.name).Nodup)
    {values : List Value} {k : Nat} {p : Param} {v : Value}
    (hp : f.signature.params[k]? = some p) (hv : values[k]? = some v) (w : World) :
    (Frame.ofCall f values).get w p.name = .ok v := by
  have hfind : (f.signature.params.zip values).find? (fun b => b.1.name = p.name) =
      some (p, v) := by
    generalize f.signature.params = params at hdistinct hp
    induction params generalizing values k with
    | nil => simp at hp
    | cons q params ih =>
      obtain ⟨hq, hdistinct⟩ := List.nodup_cons.mp hdistinct
      rcases values with _ | ⟨u, values⟩
      · simp at hv
      · cases k with
        | zero =>
          obtain rfl := Option.some.inj hp
          obtain rfl := Option.some.inj hv
          simp
        | succ k =>
          have hne : q.name ≠ p.name := by
            intro h
            exact hq (h ▸ List.mem_map_of_mem (List.mem_of_getElem? hp))
          rw [List.zip_cons_cons, List.find?_cons_of_neg (by simpa using hne)]
          exact ih hv hdistinct hp
  rw [Frame.get, Frame.ofCall]
  dsimp only
  rw [hfind]

/-! ## Logged functions around functions

The same function can be handed over as it is, or with a static or class method around it. The
wrapping is noted, but the function is what is described and called, so everything below is told of
the function and of the kind of wrapping. -/

/-- How a function is given to be logged. -/
inductive Wrapping where
  | plain
  | staticMethod
  | classMethod
  deriving DecidableEq

/-- A value is a function, or a static or class method around it. -/
def World.Presents (w : World) (target : Value) : Wrapping → Value → Prop
  | .plain, v => v = target
  | .staticMethod, v => ∃ labels, w.behind? v = some (.staticMethod target labels)
  | .classMethod, v => ∃ labels, w.behind? v = some (.classMethod target labels)

namespace LoggedFunction

open Evaluation (callFunction runBody)
open Signature (Receives WellFormed)

/-- A logged function stands around a function. Its target is the function itself, and its signature
is the one that the function had when it was wrapped. -/
structure Around (l : LoggedFunction) (w : World) (kind : Wrapping) (t : Nat)
    (line : List KnownClass) (f : Function) : Prop where
  target : l.target = .object t line
  func : w.Presents l.target kind l.func
  function : w.object? t = some (.function f)
  signature : l.signature = f.signature

section

variable {l : LoggedFunction} {w : World} {kind : Wrapping} {t : Nat} {line : List KnownClass}
  {f : Function}

theorem Around.behind?_target (h : l.Around w kind t line f) :
    w.behind? l.target = some (.function f) := by
  rw [h.target]
  exact h.function

theorem Around.unwrap_func (h : l.Around w kind t line f) : w.unwrap l.func = l.target := by
  have hfunc := h.func
  rw [World.unwrap]
  cases kind with
  | plain =>
    rw [show l.func = l.target from hfunc, h.behind?_target]
  | staticMethod | classMethod =>
    obtain ⟨labels, hbehind⟩ := hfunc
    rw [hbehind]

theorem Around.isStatic_func (h : l.Around w kind t line f) :
    w.isStatic l.func = decide (kind = .staticMethod) := by
  have hfunc := h.func
  rw [World.isStatic]
  cases kind with
  | plain =>
    rw [show l.func = l.target from hfunc, h.behind?_target]
    rfl
  | staticMethod | classMethod =>
    obtain ⟨labels, hbehind⟩ := hfunc
    rw [hbehind]
    rfl

theorem Around.isClassMethod_func (h : l.Around w kind t line f) :
    w.isClassMethod l.func = decide (kind = .classMethod) := by
  have hfunc := h.func
  rw [World.isClassMethod]
  cases kind with
  | plain =>
    rw [show l.func = l.target from hfunc, h.behind?_target]
    rfl
  | staticMethod | classMethod =>
    obtain ⟨labels, hbehind⟩ := hfunc
    rw [hbehind]
    rfl

/-- How many parameters are left out: the receiver is, if there is one. A static method has none,
and without a class it is not known that the first parameter is one. -/
def omitted (l : LoggedFunction) (kind : Wrapping) : Nat :=
  if l.owner.isSome ∧ kind ≠ .staticMethod then 1 else 0

/-- As many parameters are left out of the description. -/
theorem Around.withoutReceiver (h : l.Around w kind t line f) (params : List Param) :
    w.withoutReceiver l.func l.owner params = params.drop (l.omitted kind) := by
  rw [World.withoutReceiver, h.isStatic_func, omitted]
  by_cases hreceiver : l.owner.isSome = true ∧ kind ≠ .staticMethod
  · rw [if_pos (by simpa using hreceiver), if_pos hreceiver]
  · rw [if_neg (by simpa using hreceiver), if_neg hreceiver, List.drop_zero]

/-- As many values are left out of what is shown, after all arguments were bound to all parameters.
The number is the same one as for the parameters, which is why the indices fit. -/
theorem Around.shownArguments (h : l.Around w kind t line f) (arguments : Arguments) :
    l.shownArguments w arguments =
      (f.signature.bind arguments).map fun values => values.drop (l.omitted kind) := by
  rw [LoggedFunction.shownArguments, h.signature]
  congr 1
  funext values
  rw [h.isStatic_func, omitted]
  by_cases hreceiver : l.owner.isSome = true ∧ kind ≠ .staticMethod
  · rw [if_pos (by simpa using hreceiver), if_pos hreceiver]
  · rw [if_neg (by simpa using hreceiver), if_neg hreceiver, List.drop_zero]

theorem Around.describes (h : l.Around w kind t line f) {config : Config} {m : Metadata}
    {j j' : Journal} (hm : w.describe l.func config l.owner j = (.ok m, j')) :
    w.DescribesAll l.target (f.signature.params.drop (l.omitted kind)) m.parameters := by
  obtain ⟨-, signature, hsignature, hdescribes⟩ := World.describe_eq_ok hm
  rw [h.unwrap_func] at hsignature hdescribes
  rw [h.target, World.signatureOf_function h.function] at hsignature
  obtain rfl := Except.ok.inj hsignature
  rwa [h.withoutReceiver] at hdescribes

/-- What a plan points at is described, under the name that the plan has for it. So there is a value
for every index in a plan, as soon as there are as many values as parameters. -/
structure InRange (m : Metadata) (plan : Plan) : Prop where
  rules : ∀ i name hint, .live i name hint ∈ plan.parameters →
    ∃ (n : Nat) (q : Parameter), m.parameters[n]? = some q ∧ i = n ∧ name = q.name
  error : ∀ e, plan.errorParameter = some e →
    ∃ (n : Nat) (q : Parameter), m.parameters[n]? = some q ∧ e.index = n ∧ e.name = q.name

/-- A plan takes its indices and names from what is described, and from nothing else. -/
theorem inRange_of_plan {m : Metadata} (hnumbered : Parameter.Numbered m.parameters) {plan : Plan}
    (h : m.plan = .ok plan) : InRange m plan where
  rules i name hint hrule := by
    cases Metadata.pointsIn_of_plan hnumbered h _ hrule with
    | live hq _ => exact ⟨_, _, hq, rfl, rfl⟩
  error e he := by
    obtain ⟨n, q, hq, -, hindex, hname⟩ := Metadata.errorParameter_visible hnumbered h he
    exact ⟨n, q, hq, hindex, hname⟩

/-- The value that is shown at an index is the one that the function gets for the parameter that
is described there. -/
structure ShownAt (w : World) (f : Function) (arguments : Arguments) (values : List Value)
    (q : Parameter) (v : Value) : Prop where
  /-- the name of the parameter stands for the value in the body of the function -/
  named : (Frame.ofCall f values).get w q.name = .ok v
  /-- the value is the argument for the parameter, or what it is without one -/
  received : ∃ (k : Nat) (p : Param), f.signature.params[k]? = some p ∧ p.name = q.name ∧
    Receives f.signature.params arguments k p v

/-- What is described of a logged function and what is shown of its calls fit together. -/
structure Agrees (l : LoggedFunction) (w : World) (kind : Wrapping) (t : Nat) (f : Function)
    (m : Metadata) : Prop where
  /-- the parameters are numbered from zero -/
  numbered : Parameter.Numbered m.parameters
  /-- they are those of the function but for the receiver, in order -/
  names : m.parameters.map Parameter.name =
    (f.signature.params.drop (l.omitted kind)).map Param.name
  /-- for arguments that bind there is a value for each parameter: the one that the function gets,
  if it is called with these arguments -/
  shown : ∀ arguments values, l.signature.bind arguments = some values →
    ∃ shown, l.shownArguments w arguments = some shown ∧
      shown.length = m.parameters.length ∧
      (∀ (i : Nat) (q : Parameter), m.parameters[i]? = some q →
        ∃ v, shown[i]? = some v ∧ ShownAt w f arguments values q v) ∧
      ∀ respond v, callFunction respond t f arguments v =
        (if f.isAsync then do return ← Run.make (.coroutine f.qualname (.body t values))
          else runBody respond f values : Task World Value) v
  /-- for other arguments there is none -/
  unbound : ∀ arguments, l.signature.bind arguments = none → l.shownArguments w arguments = none
  /-- every index in a plan is the one of a parameter -/
  inRange : ∀ plan, m.plan = .ok plan → InRange m plan

/-- The value at an index belongs to the parameter that is described there, if as many values are
left out as parameters are. The values are those that the function is called with, so the one that
is shown is the one that the body sees under that name. -/
theorem shownAt_of_describes {target : Value} {n : Nat} {parameters : List Parameter}
    (hdescribes : w.DescribesAll target (f.signature.params.drop n) parameters)
    (hsignature : f.signature.WellFormed) {arguments : Arguments} {values : List Value}
    (hbind : f.signature.bind arguments = some values) {i : Nat} {q : Parameter}
    (hq : parameters[i]? = some q) (w' : World) :
    ∃ v, (values.drop n)[i]? = some v ∧ ShownAt w' f arguments values q v := by
  have hlt : n + i < f.signature.params.length := by
    have hi := (List.getElem?_eq_some_iff.mp hq).1
    rw [hdescribes.length, List.length_drop] at hi
    omega
  obtain ⟨p, hp⟩ : ∃ p, f.signature.params[n + i]? = some p := ⟨_, List.getElem?_eq_getElem hlt⟩
  obtain ⟨v, hv⟩ : ∃ v, values[n + i]? = some v :=
    ⟨_, List.getElem?_eq_getElem (Signature.length_bind hbind ▸ hlt)⟩
  have hname : q.name = p.name :=
    (hdescribes.described i p q (by rw [List.getElem?_drop, hp]) hq).2.1
  refine ⟨v, by rw [List.getElem?_drop, hv], ?_, ?_⟩
  · rw [hname]
    exact Frame.get_ofCall hsignature.distinct hp hv w'
  · exact ⟨_, p, hp, hname.symm, Signature.receives_of_bind hsignature hbind hp hv⟩

/-- The body of a function runs with the values that were bound. For a function that is awaited they
are kept in what it returns until then. -/
theorem callFunction_of_ok {respond : Evaluation.Responder} {arguments : Arguments}
    {values : List Value} (h : f.signature.accept arguments = .ok values) (v : World) :
    callFunction respond t f arguments v =
      (if f.isAsync then do return ← Run.make (.coroutine f.qualname (.body t values))
        else runBody respond f values : Task World Value) v := by
  rw [callFunction, h]
  exact Task.ofAction_bind_of_ok rfl _

end

/-- **Described parameters and shown arguments agree.** The function may be described in another
world than it is called in: a plan is made once, and by the time of a call anything may have
happened that leaves the function as it is. The first part says that there is a description,
wherever the name of the module is a text and reports can be written; without it the second part
might say nothing. -/
theorem arguments_agree {l : LoggedFunction} {w w' : World} {kind : Wrapping} {t : Nat}
    {line : List KnownClass} {f f' : Function} (hdescribed : l.Around w kind t line f)
    (hcalled : l.Around w' kind t line f') (hsignature : l.signature.WellFormed)
    (config : Config) :
    (∀ name j, w.moduleLabel ((l.owner.map fun c => Value.type (.cls c)).getD l.target) =
        .str name → j.IsWritable w.naming →
      ∃ m j', w.describe l.func config l.owner j = (.ok m, j')) ∧
    ∀ m j j', w.describe l.func config l.owner j = (.ok m, j') → l.Agrees w' kind t f' m := by
  have hparams : f.signature = f'.signature := hdescribed.signature.symm.trans hcalled.signature
  rw [hcalled.signature] at hsignature
  constructor
  · intro name j hmodule hj
    rw [hdescribed.target] at hmodule
    exact World.describe_function hdescribed.function
      (hdescribed.unwrap_func.trans hdescribed.target) hmodule hj config
  · intro m j j' hm
    have hdescribes := hdescribed.describes hm
    rw [hparams] at hdescribes
    refine ⟨hdescribes.numbered, hdescribes.names, ?_, ?_, ?_⟩
    · intro arguments values hbind
      rw [hcalled.signature] at hbind
      refine ⟨values.drop (l.omitted kind), ?_, ?_, ?_, ?_⟩
      · rw [hcalled.shownArguments, hbind, Option.map_some]
      · rw [hdescribes.length, List.length_drop, List.length_drop, Signature.length_bind hbind]
      · intro i q hq
        exact shownAt_of_describes hdescribes hsignature hbind hq w'
      · intro respond v
        exact callFunction_of_ok (Signature.accept_of_bind hbind) v
    · intro arguments hbind
      rw [hcalled.signature] at hbind
      rw [hcalled.shownArguments, hbind, Option.map_none]
    · intro plan hplan
      exact inRange_of_plan hdescribes.numbered hplan

/-- A function with parameters of all kinds. -/
def gathering : Function where
  name := "gather"
  qualname := "C.gather"
  module := .str "m"
  signature := { params := [
    { name := "cls", kind := .positional },
    { name := "x", hint := some (.annotated (.ofKnown .str) [.dontLog]) },
    { name := "more", kind := .rest },
    { name := "flag", kind := .named, default := some (.bool false) },
    { name := "others", kind := .others }] }
  home := 0

/-- A world with a class method around a function, and the class that it belongs to. -/
def gatheringWorld : World where
  objects := #[.module "m" [], .function gathering,
    .classMethod (.object 1 [.object]) ⟨some (.str "gather"), none, none⟩,
    .cls ⟨"C", "C", .str "m", [.made 3 [.object], .known .object],
      [("gather", .object 2 [.object])]⟩]

/-- A logged function around the class method. -/
def gatheringLogged : LoggedFunction where
  func := .object 2 [.object]
  target := .object 1 [.object]
  interceptor := {}
  signature := gathering.signature
  isAsync := false
  owner := some (.made 3 [.object])
  labels := {}
  wrapped := .object 1 [.object]

theorem arguments_agree_gathering :
    (∃ m j', gatheringWorld.describe gatheringLogged.func {} gatheringLogged.owner {} =
        (.ok m, j') ∧ gatheringLogged.Agrees gatheringWorld .classMethod 1 gathering m) ∧
      gatheringLogged.shownArguments gatheringWorld
          ⟨[.type (.cls (.made 3 [.object])), .int 1, .int 2], [("y", .int 3)]⟩ =
        some [.int 1, .tuple [.int 2], .bool false, .dict [(.str "y", .int 3)]] := by
  have haround : gatheringLogged.Around gatheringWorld .classMethod 1 [.object] gathering :=
    ⟨rfl, ⟨_, rfl⟩, rfl, rfl⟩
  have hsignature : gatheringLogged.signature.WellFormed := ⟨by decide, by decide⟩
  obtain ⟨hexists, hagrees⟩ := arguments_agree haround haround hsignature {}
  obtain ⟨m, j', hm⟩ := hexists "m" {} rfl (by rintro _ ⟨⟩)
  exact ⟨⟨m, j', hm, hagrees m {} j' hm⟩, rfl⟩

end LoggedFunction

end CallLog
