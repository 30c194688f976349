import CallLog.Proofs.Arguments
import CallLog.Proofs.Interception

/-!
# Worlds that go on

While a program runs, objects are added to its world, and some of those that are there change:
lists, modules, classes and instances get other contents, coroutines are spent, and logged functions
get other log points and owners. `World.Retains` says that nothing else changes. Functions and the
methods around them are the same in every later world, and what a logged function stands around
stays what it is (`Around.retained`).
-/

namespace CallLog

namespace Object

/-- What of an object stays as it is: all but what programs change. Objects with the same core are
of the same kind. -/
def core : Object → Object
  | module name _ => module name []
  | space _ => space []
  | cls c => cls { c with members := [] }
  | «instance» c _ => «instance» c []
  | logged l => logged { l with current := none, owner := none }
  | items _ => items []
  | coroutine name _ => coroutine name .over
  | object => object

end Object

/-- The object that a value stands for. -/
def Value.reference? : Value → Option Nat
  | .object ref _ => some ref
  | .type (.cls (.made ref _)) => some ref
  | _ => .none

/-- Logged functions that are the same but for the log point in use and the class that they belong
to. -/
def LoggedFunction.SameCore (l l' : LoggedFunction) : Prop :=
  { l' with current := none, owner := none } = { l with current := none, owner := none }

namespace World

/-- A later world: no object is lost, and each is what it was, but for what may change of it.
Nothing is said of the journal and of the plan cache. -/
def Retains (w u : World) : Prop :=
  ∀ t object, w.object? t = some object →
    ∃ object', u.object? t = some object' ∧ object'.core = object.core

variable {u v w : World} {t : Nat}

theorem Retains.refl (w : World) : w.Retains w :=
  fun _ object h => ⟨object, h, rfl⟩

theorem Retains.trans (huv : u.Retains v) (hvw : v.Retains w) : u.Retains w := by
  intro t object h
  obtain ⟨object', h', hcore⟩ := huv t object h
  obtain ⟨object'', h'', hcore'⟩ := hvw t object' h'
  exact ⟨object'', h'', hcore'.trans hcore⟩

theorem Retains.function (h : w.Retains u) {f : Function} (hf : w.object? t = some (.function f)) :
    u.object? t = some (.function f) := by
  obtain ⟨object, hobject, hcore⟩ := h t _ hf
  cases object <;> cases hcore
  exact hobject

theorem Retains.staticMethod (h : w.Retains u) {func : Value} {labels : Labels}
    (hs : w.object? t = some (.staticMethod func labels)) :
    u.object? t = some (.staticMethod func labels) := by
  obtain ⟨object, hobject, hcore⟩ := h t _ hs
  cases object <;> cases hcore
  exact hobject

theorem Retains.classMethod (h : w.Retains u) {func : Value} {labels : Labels}
    (hs : w.object? t = some (.classMethod func labels)) :
    u.object? t = some (.classMethod func labels) := by
  obtain ⟨object, hobject, hcore⟩ := h t _ hs
  cases object <;> cases hcore
  exact hobject

/-- A logged function is still one, with the same target. -/
theorem Retains.logged (h : w.Retains u) {l : LoggedFunction}
    (hl : w.object? t = some (.logged l)) :
    ∃ l', u.object? t = some (.logged l') ∧ l.SameCore l' := by
  obtain ⟨object, hobject, hcore⟩ := h t _ hl
  cases object with
  | logged l' => exact ⟨l', hobject, Object.logged.inj hcore⟩
  | _ => cases hcore

/-- Objects are never lost: the last one is still there. -/
theorem Retains.size_le (h : w.Retains u) : w.objects.size ≤ u.objects.size := by
  by_contra hlt
  obtain ⟨object, hobject⟩ : ∃ object, w.object? u.objects.size = some object :=
    ⟨_, Array.getElem?_eq_getElem (by omega)⟩
  obtain ⟨object', hobject', -⟩ := h _ _ hobject
  obtain ⟨hlt', -⟩ := Array.getElem?_eq_some_iff.mp hobject'
  exact Nat.lt_irrefl _ hlt'

/-- The world with an object added. -/
def push (w : World) (object : Object) : World :=
  { w with objects := w.objects.push object }

theorem object?_push_self (w : World) (object : Object) :
    (w.push object).object? w.objects.size = some object :=
  Array.getElem?_push_size

theorem object?_push_of_lt {object : Object} (h : t < w.objects.size) :
    (w.push object).object? t = w.object? t :=
  (Array.getElem?_push_lt h).trans (Array.getElem?_eq_getElem h).symm

theorem lt_size_of_object? {object : Object} (h : w.object? t = some object) :
    t < w.objects.size :=
  (Array.getElem?_eq_some_iff.mp h).1

/-- An object that is added gets a reference that was not in use. -/
theorem retains_push (w : World) (object : Object) : w.Retains (w.push object) := by
  intro t old h
  exact ⟨old, (object?_push_of_lt (lt_size_of_object? h)).trans h, rfl⟩

theorem behind?_eq_bind (w : World) (x : Value) : w.behind? x = x.reference?.bind w.object? := by
  unfold behind?
  split
  · rfl
  · rfl
  · rename_i hobject hclass
    rw [Value.reference?]
    · rfl
    · exact hobject
    · exact hclass

theorem behind?_eq_some_iff {x : Value} {object : Object} :
    w.behind? x = some object ↔ ∃ t, x.reference? = some t ∧ w.object? t = some object := by
  rw [behind?_eq_bind, Option.bind_eq_some_iff]

theorem Presents.retained {target x : Value} {kind : Wrapping} (hp : w.Presents target kind x)
    (h : w.Retains u) : u.Presents target kind x := by
  cases kind with
  | plain => exact hp
  | staticMethod =>
    obtain ⟨labels, hbehind⟩ := hp
    obtain ⟨t, hx, ht⟩ := behind?_eq_some_iff.mp hbehind
    exact ⟨labels, behind?_eq_some_iff.mpr ⟨t, hx, h.staticMethod ht⟩⟩
  | classMethod =>
    obtain ⟨labels, hbehind⟩ := hp
    obtain ⟨t, hx, ht⟩ := behind?_eq_some_iff.mp hbehind
    exact ⟨labels, behind?_eq_some_iff.mpr ⟨t, hx, h.classMethod ht⟩⟩

end World

namespace LoggedFunction

variable {l l' : LoggedFunction} {w u : World} {kind : Wrapping} {t : Nat}
  {line : List KnownClass} {f : Function}

theorem SameCore.func (h : l.SameCore l') : l'.func = l.func :=
  congrArg (·.func) h

theorem SameCore.target (h : l.SameCore l') : l'.target = l.target :=
  congrArg (·.target) h

theorem SameCore.signature (h : l.SameCore l') : l'.signature = l.signature :=
  congrArg (·.signature) h

theorem SameCore.isAsync (h : l.SameCore l') : l'.isAsync = l.isAsync :=
  congrArg (·.isAsync) h

theorem SameCore.wrapped (h : l.SameCore l') : l'.wrapped = l.wrapped :=
  congrArg (·.wrapped) h

/-- **A logged function stands around the same function** in every later world. Neither its log
point nor its owner is asked for by that. -/
theorem Around.retained (h : l.Around w kind t line f) (hcore : l.SameCore l')
    (hu : w.Retains u) : l'.Around u kind t line f where
  target := hcore.target.trans h.target
  func := by
    rw [hcore.func, hcore.target]
    exact h.func.retained hu
  function := hu.function h.function
  signature := hcore.signature.trans h.signature

end LoggedFunction

end CallLog
