import CallLog.Evaluation.Path
import CallLog.Proofs.Retained

/-!
# Calls of what classes hold

A member of a class is called through the class, through a subclass or through an instance. What is
found then stands around a function in some way, and that way decides what is put before the
arguments: the instance, the class or nothing. The main statement is `answers_of_stands`: calling
such an attribute is calling what the member stands around with these arguments, in the world in
which the member was looked at and in every later one.
-/

namespace CallLog

namespace Wrapping

/-- What is put before the arguments of a call. A plain function gets the instance, if it is called
through one, a class method gets the class in either case, and a static method nothing. -/
def front : Wrapping → Option Value → Class → Option Value
  | plain, receiver, _ => receiver
  | staticMethod, _, _ => none
  | classMethod, _, c => some (.type (.cls c))

/-- The way in which something is bound that stands around something that is bound in its own way.
A class method hands the class on as a receiver, which a static method inside it drops. -/
def around : Wrapping → Wrapping → Wrapping
  | plain, inner => inner
  | staticMethod, _ => staticMethod
  | classMethod, staticMethod => staticMethod
  | classMethod, _ => classMethod

theorem around_plain (outer : Wrapping) : outer.around plain = outer := by
  cases outer <;> rfl

end Wrapping

/-- The arguments with what is put before them. -/
def Arguments.behind (front : Option Value) (arguments : Arguments) : Arguments :=
  { arguments with positional := front.toList ++ arguments.positional }

namespace World

variable {u w : World} {callee v x : Value} {outer inner kind : Wrapping} {t : Nat} {f : Function}
  {name : String} {receiver : Option Value} {c : Class}

/-- A function, or a logged function around one, with the way in which it is bound. A logged
function takes the part of what it was made from, so it is bound as that would be. -/
inductive Stands (w : World) : Value → Wrapping → Nat → Function → Prop where
  | function {t : Nat} {line : List KnownClass} {f : Function}
      (hf : w.object? t = some (.function f)) : w.Stands (.object t line) .plain t f
  | logged {ref t : Nat} {line line' : List KnownClass} {l : LoggedFunction} {kind : Wrapping}
      {f : Function} (hl : w.object? ref = some (.logged l))
      (haround : l.Around w kind t line' f) (hasync : f.isAsync = l.isAsync) :
      w.Stands (.object ref line) kind t f

/-- What stands around a function does so in every later world. -/
theorem Stands.retained (h : w.Stands callee kind t f) (hu : w.Retains u) :
    u.Stands callee kind t f := by
  cases h with
  | function hf => exact .function (hu.function hf)
  | logged hl haround hasync =>
    obtain ⟨l', hl', hcore⟩ := hu.logged hl
    exact .logged hl' (haround.retained hcore hu) (hasync.trans hcore.isAsync.symm)

/-- What stands around a function is a function or a logged function. -/
theorem Stands.object (h : w.Stands callee kind t f) :
    ∃ ref line object, callee = .object ref line ∧ w.object? ref = some object ∧
      ((∃ g, object = .function g) ∨ ∃ l, object = .logged l) := by
  cases h with
  | function hf => exact ⟨_, _, _, rfl, hf, .inl ⟨_, rfl⟩⟩
  | logged hl haround hasync => exact ⟨_, _, _, rfl, hl, .inr ⟨_, rfl⟩⟩

/-! ## What an attribute gives

A member is first looked up, and then bound to what it was looked up through. Looking up ends at the
first class that has the name. Binding goes through what stands around the function, from outside
inward, and ends at the first layer that decides. -/

/-- What stands around a function decides at once how it is bound: there is no layer inside that
would be asked. -/
theorem accessWithin_of_stands (h : w.Stands callee kind t f) (n : Nat) (receiver : Option Value)
    (c : Class) :
    w.accessWithin (n + 1) callee receiver c = receive callee (kind.front receiver c) := by
  cases h with
  | @function t line f hf =>
    rw [accessWithin, behind?_object, hf]
    rfl
  | @logged ref _ line _ l _ _ hl haround hasync =>
    rw [accessWithin, behind?_object, hl]
    dsimp only
    rw [haround.isStatic_func, haround.isClassMethod_func]
    cases kind <;> rfl

/-- A member of a class gives what it stands around, bound in the way in which it stands there.
There is one case for each layer outside: a static method ends the binding, and a class method goes
on with the class as the receiver. -/
theorem access_of_stands (hv : w.Presents callee outer v) (h : w.Stands callee inner t f)
    (receiver : Option Value) (c : Class) :
    w.access v receiver c = receive callee ((outer.around inner).front receiver c) := by
  rw [access, depth]
  cases outer with
  | plain =>
    obtain rfl : v = callee := hv
    exact accessWithin_of_stands h _ receiver c
  | staticMethod =>
    obtain ⟨labels, hbehind⟩ := hv
    rw [accessWithin, hbehind]
    rfl
  | classMethod =>
    obtain ⟨labels, hbehind⟩ := hv
    obtain ⟨ref, line, object, rfl, hobject, hkind⟩ := h.object
    have hbinding : w.isBinding (.object ref line) = true := by
      rw [isBinding, behind?_object, hobject]
      rcases hkind with ⟨g, rfl⟩ | ⟨l, rfl⟩ <;> rfl
    -- there is an object, so the class method inside is within reach
    obtain ⟨n, hn⟩ := Nat.exists_eq_add_one_of_ne_zero
      (Nat.ne_zero_of_lt (lt_size_of_object? hobject))
    rw [accessWithin, hbehind]
    dsimp only
    rw [if_pos hbinding, hn, accessWithin_of_stands h]
    cases inner <;> rfl

/-- A value is asked for an attribute that it has as a member of a class: the value is the class, or
an instance that has no attribute of that name itself. An instance that has one would hide the
member. -/
inductive Finds (u : World) (name : String) (v : Value) : Value → Option Value → Class → Prop where
  | ofClass {c : Class} (h : u.classGet? c name = some v) : u.Finds name v (.type (.cls c)) none c
  | ofInstance {x : Value} {c : Class} (hclass : asClass? x = none)
      (hx : u.instanceClass? x = some c) (hown : (u.instanceMembers x).get? name = none)
      (h : u.classGet? c name = some v) : u.Finds name v x (some x) c

theorem Finds.access? (h : u.Finds name v x receiver c) :
    u.access? x name = some (u.access v receiver c) := by
  cases h with
  | ofClass h =>
    unfold World.access?
    simp only [asClass?, h]
    rfl
  | ofInstance hclass hx hown h =>
    have hinstance : u.instanceAccess? x c name = some (u.access v (some x) c) := by
      rw [instanceAccess?, h, hown]
      dsimp only
      split <;> first | rfl | simp_all
    unfold World.access?
    simp only [hclass, hx, hinstance]
    rfl

/-- The world in which a member of a class is called: a method may have been made, which is a new
object and changes none of the others. -/
def binding (w : World) (callee : Value) : Option Value → World
  | some receiver => w.push (.method callee receiver)
  | none => w

end World

namespace Evaluation

variable {w : World} {depth : Nat} {callee x : Value} {kind : Wrapping} {t : Nat} {f : Function}
  {arguments : Arguments}

/-- Calls an attribute of a value. -/
def callAttribute (respond : Responder) (x : Value) (name : String) (arguments : Arguments) :
    Task World Value := do
  respond (.call (← member respond x name) arguments)

theorem forward_of_stands (h : w.Stands callee kind t f) (n : Nat) (arguments : Arguments) :
    forward w n callee arguments = (callee, arguments) := by
  obtain ⟨ref, line, object, rfl, hobject, hkind⟩ := h.object
  exact forward_object hobject hkind n arguments

/-- What stands around a function is called as it is, without being forwarded to anything else. -/
theorem call_of_stands (h : w.Stands callee kind t f) (arguments : Arguments) :
    respondWithin (depth + 1) (.call callee arguments) w =
      callDirectly (respondWithin depth) callee arguments w := by
  rw [respondWithin, callValue]
  refine (Task.ofAction_bind_of_ok (Run.world_run w) _).trans ?_
  rw [forward_of_stands h]

/-- A method calls its function with its receiver put before the arguments. -/
theorem call_method {ref : Nat} {line : List KnownClass} {receiver : Value}
    (hmethod : w.object? ref = some (.method callee receiver)) (h : w.Stands callee kind t f)
    (arguments : Arguments) :
    respondWithin (depth + 1) (.call (.object ref line) arguments) w =
      respondWithin (depth + 1) (.call callee (arguments.behind (some receiver))) w := by
  rw [call_of_stands h, respondWithin, callValue]
  refine (Task.ofAction_bind_of_ok (Run.world_run w) _).trans ?_
  rw [World.depth, forward, World.behind?_object, hmethod]
  dsimp only
  rw [forward_of_stands h]
  rfl

/-- **An attribute is called**: that is a call of what it gives, with what it is bound to before the
arguments. Where it is bound to something, a method is made first and then called, which comes to
the same. -/
theorem callAttribute_run {name : String} {front : Option Value}
    (haccess : w.access? x name = some (World.receive callee front))
    (h : w.Stands callee kind t f) (arguments : Arguments) :
    callAttribute (respondWithin (depth + 1)) x name arguments w =
      respondWithin (depth + 1) (.call callee (arguments.behind front))
        (w.binding callee front) := by
  have hmember : member (respondWithin (depth + 1)) x name w =
      ofAccess (respondWithin (depth + 1)) (World.receive callee front) w := by
    rw [member]
    refine (Task.ofAction_bind_of_ok (Run.world_run w) _).trans ?_
    rw [haccess]
  rw [callAttribute, Task.bind_apply, hmember]
  cases front with
  | none => rfl
  | some receiver =>
    -- the method that is made for the receiver is the last object
    have hmade := World.object?_push_self w (.method callee receiver)
    exact call_method hmade (h.retained (w.retains_push _)) arguments

end Evaluation

namespace World

open Evaluation (callAttribute respondWithin)

/-- Through whatever a member is called, now and later, something else is called with the arguments
that the way of binding makes of the given ones. It is said of all later worlds, since the calls
before this one may have changed anything but what functions stand around. -/
def Answers (w : World) (v : Value) (kind : Wrapping) (callee : Value) : Prop :=
  ∀ u, w.Retains u → ∀ x name receiver c, u.Finds name v x receiver c → ∀ depth arguments,
    callAttribute (respondWithin (depth + 1)) x name arguments u =
      respondWithin (depth + 1) (.call callee (arguments.behind (kind.front receiver c)))
        (u.binding callee (kind.front receiver c))

/-- **A member of a class is called** as what it stands around. The two parts are put together here:
looking up gives the member bound in its way, and calling that puts the receiver first. -/
theorem answers_of_stands {w : World} {callee v : Value} {outer inner : Wrapping} {t : Nat}
    {f : Function} (hv : w.Presents callee outer v) (h : w.Stands callee inner t f) :
    w.Answers v (outer.around inner) callee := by
  intro u hu x name receiver c hfinds depth arguments
  refine Evaluation.callAttribute_run ?_ (h.retained hu) arguments
  rw [hfinds.access?, access_of_stands (hv.retained hu) (h.retained hu)]

/-- A function, or a logged function, that is itself a member is bound in its own way. -/
theorem Stands.answers {w : World} {callee : Value} {kind : Wrapping} {t : Nat} {f : Function}
    (h : w.Stands callee kind t f) : w.Answers callee kind callee := by
  have hpresents : w.Presents callee .plain callee := rfl
  have hanswers : w.Answers callee (Wrapping.plain.around kind) callee :=
    answers_of_stands hpresents h
  exact hanswers

end World

end CallLog
