import CallLog.Proofs.Retained
import CallLog.Proofs.Steady

/-!
# What programs do to a world

`World.Change` lists what programs do to a world, one thing at a time. An invariant that each of
these changes keeps is kept by every computation. The main statement is `respondWithin_maintains`,
which says so of all calls and of everything that is awaited; it is proved by induction on how deep
calls are nested.
-/

namespace CallLog

namespace World

/-! ## Changes

An invariant has to be kept by everything that programs do. What they do to a world is listed here
with all that is known about it, in particular where a log point in use can come from: it is one
that was got hold of, or the one of another logged function that is copied. -/

/-- What programs do to a world, one thing at a time. -/
inductive Change : World → World → Prop where
  /-- something is logged, or values are bound around what is logged -/
  | journal (w : World) (j : Journal) : Change w { w with journal := j }
  /-- an object is added -/
  | push (w : World) {object : Object} (h : ∀ l, object ≠ .logged l) : Change w (w.push object)
  /-- a logged function is added, which has no log point in use or that of another one -/
  | wrap {w : World} {l : LoggedFunction} (h : ∀ b, l.current = some b →
      ∃ r l', w.object? r = some (.logged l') ∧ l'.current = some b) :
      Change w (w.push (.logged l))
  /-- an object that is no logged function gets other contents -/
  | put {w : World} {r : Nat} {old object : Object} (hold : w.object? r = some old)
      (hcore : object.core = old.core) (h : ∀ l, old ≠ .logged l) : Change w (w.put r object)
  /-- the log point of a logged function is got hold of -/
  | bound {w : World} {r : Nat} {l : LoggedFunction} (hl : w.object? r = some (.logged l)) :
      Change w (l.bound r w).2
  /-- a logged function is told which class it belongs to -/
  | attach (w : World) (owner : Class) (r : Nat) : Change w (Run.setOwner owner r w).2
  /-- all plans are forgotten -/
  | clear (w : World) : Change w (cachePart.write w.cache.clear w)

/-- An invariant of worlds that everything keeps that programs do. The threshold for new loggers is
not among what they change. -/
def IsInvariant (I : World → Prop) : Prop :=
  ∀ ⦃w w'⦄, Change w w' → w'.journal.threshold = w.journal.threshold → I w → I w'

end World

variable {I : World → Prop}

/-! ## Computations in a world

Each computation is put together from steps of a few kinds. A step that looks at the world leaves it
as it is, one that logs changes the journal, and one that makes something adds an object. With these
the computations below are gone through as they are written. -/

namespace Run

open World (IsInvariant)

theorem maintains_world : Action.Maintains I Run.world :=
  fun _ h => h

/-- Logging changes the journal only. That it leaves the threshold alone is supposed, since an
invariant need not be kept where loggers are configured. -/
theorem maintains_logging (hI : IsInvariant I) {α : Type} {x : Logging α}
    (hx : ∀ t, x.Maintains fun j => j.threshold = t) : (Run.logging x).Maintains I :=
  fun w hw => hI (.journal w _) (hx _ w.journal rfl) hw

theorem maintains_make (hI : IsInvariant I) {object : Object} (h : ∀ l, object ≠ .logged l) :
    (Run.make object).Maintains I :=
  fun w hw => hI (.push w h) rfl hw

/-- What is done next is done in the world as it is. -/
theorem maintains_world_bind {α : Type} {f : World → Run α} (hf : ∀ w, I w → I (f w w).2) :
    Action.Maintains I (Run.world >>= f) := by
  intro w hw
  rw [Action.bind_of_ok (world_run w)]
  exact hf w hw

/-! ## Making values

Values are made from arguments that are looked at first. The looking changes nothing and may raise,
and then one object is added at the most. -/

theorem maintains_refuseArguments {α : Type} : Action.Maintains I (refuseArguments : Run α) :=
  .fault _

theorem maintains_onlyPositional (arguments : Arguments) :
    (onlyPositional arguments).Maintains I := by
  rw [onlyPositional]
  split
  · exact .pure _
  · exact .fault _

theorem maintains_itemsOf (v : Value) : (itemsOf v).Maintains I := by
  unfold itemsOf
  split
  · exact .pure _
  · exact .pure _
  · exact .pure _
  · exact .pure _
  · exact .fault _

theorem maintains_fieldOf (arguments : Arguments) : (fieldOf arguments).Maintains I := by
  refine (Action.Maintains.ofExcept _).bind fun values => ?_
  split
  · exact .pure _
  · exact .fault _

theorem maintains_textOf (v : Value) : (textOf v).Maintains I := by
  refine Action.Maintains.bind (maintains_world.bind fun _ => .pure _) fun naming => ?_
  exact (Action.Maintains.ofExcept _).bind fun _ => .pure _

theorem maintains_constructPlain (hI : IsInvariant I) (k : KnownClass) (arguments : Arguments) :
    (constructPlain k arguments).Maintains I := by
  have hinstance : (make (.instance (.known k) [])).Maintains I :=
    maintains_make hI fun _ => Object.noConfusion
  unfold constructPlain
  split
  -- records are checked, plain classes take one field, and the others take what they are made from
  all_goals
    first
      | exact hinstance
      | exact .pure _
      | exact maintains_refuseArguments
      | exact maintains_textOf _
      | exact (maintains_fieldOf _).bind fun _ => .pure _
      | exact (maintains_itemsOf _).bind fun _ => .pure _
      | exact (Action.Maintains.ofExcept _).bind fun _ => .pure _

theorem maintains_construct (hI : IsInvariant I) (k : KnownClass) (arguments : Arguments) :
    (construct k arguments).Maintains I := by
  rw [construct]
  split
  · exact (maintains_onlyPositional arguments).bind fun _ => .pure _
  · exact maintains_constructPlain hI k arguments

theorem maintains_inheritedMembers (ancestors : List KnownClass) (arguments : Arguments) :
    (inheritedMembers ancestors arguments).Maintains I := by
  unfold inheritedMembers
  split
  · exact (maintains_fieldOf arguments).bind fun _ => .pure _
  · split
    · exact .pure _
    · exact maintains_refuseArguments
    · exact .pure _

/-! ## Decorating

Decorating makes configurations and logged functions and puts them in classes. A class that gets a
member is an object put again with other members, which is one of the listed changes. -/

theorem maintains_wrap (hI : IsInvariant I) (interceptor : Interceptor) (func : Value) :
    (wrap interceptor func).Maintains I := by
  refine maintains_world_bind fun w hw => ?_
  have hnew {l : LoggedFunction} (h : l.current = none) : I (w.push (.logged l)) :=
    hI (.wrap fun b hb => by rw [h] at hb; cases hb) rfl hw
  rcases w.signatureOf (w.unwrap func) with f | signature
  · exact hw
  · rcases hbehind : w.behind? (w.unwrap func) with _ | object
    · exact hnew rfl
    · cases object with
      | logged inner =>
        -- the copy of a logged function has its log point
        obtain ⟨r, -, hr⟩ := World.behind?_eq_some_iff.mp hbehind
        exact hI (.wrap fun b hb => ⟨r, inner, hr, hb⟩) rfl hw
      | _ => exact hnew rfl

theorem threshold_setOwner (owner : Class) (r : Nat) (w : World) :
    (setOwner owner r w).2.journal.threshold = w.journal.threshold := by
  have hkeeps : (setOwner owner r).Maintains fun v =>
      v.journal.threshold = w.journal.threshold := by
    refine maintains_world.bind fun u => ?_
    split
    · exact fun v hv => hv
    · exact .pure ()
  exact hkeeps w rfl

theorem maintains_setOwner (hI : IsInvariant I) (owner : Class) (r : Nat) :
    (setOwner owner r).Maintains I :=
  fun w hw => hI (.attach w owner r) (threshold_setOwner owner r w) hw

theorem maintains_setMember (hI : IsInvariant I) (r : Nat) (name : String) (v : Value) :
    (Run.change (World.setMember r name v)).Maintains I := by
  intro w hw
  change I (w.setMember r name v)
  rw [World.setMember, World.class?]
  rcases hr : w.object? r with _ | object
  · exact hw
  · cases object with
    | cls c => exact hI (.put hr rfl fun _ => Object.noConfusion) rfl hw
    | _ => exact hw

theorem maintains_instrumentMember (hI : IsInvariant I) (owner : Class) (r : Nat)
    (interceptor : Interceptor) (member : String × Value) :
    (instrumentMember owner r interceptor member).Maintains I := by
  refine maintains_world.bind fun w => ?_
  split
  · refine (maintains_wrap hI interceptor member.2).bind fun wrapper => ?_
    exact (maintains_setOwner hI owner wrapper).bind fun _ => maintains_setMember hI r _ _
  · exact .pure _

theorem maintains_instrument (hI : IsInvariant I) (interceptor : Interceptor) (owner : Class) :
    (instrument interceptor owner).Maintains I := by
  cases owner with
  | known k =>
    rw [instrument]
    split
    · exact .pure _
    · exact .fault _
  | made r ancestors =>
    refine (maintains_make hI fun _ => Object.noConfusion).bind fun config => ?_
    refine (maintains_setMember hI r _ config).bind fun _ => maintains_world.bind fun w => ?_
    exact .forM (maintains_instrumentMember hI _ r _) _

theorem maintains_decorate (hI : IsInvariant I) (interceptor : Interceptor) (v : Value) :
    (decorate interceptor v).Maintains I := by
  rw [decorate]
  split
  · exact (maintains_instrument hI interceptor _).bind fun _ => .pure _
  · exact (maintains_wrap hI interceptor v).bind fun _ => .pure _

end Run

namespace Evaluation

open World (IsInvariant)

variable {respond : Responder}

/-- What makes calls keeps an invariant. -/
def Responder.Maintains (I : World → Prop) (respond : Responder) : Prop :=
  ∀ request, Task.Maintains I (respond request)

/-- What is done next is done in the world as it is. -/
theorem maintains_world_bind {α : Type} {f : World → Task World α}
    (hf : ∀ w x, f w = x → I w → (x w).Maintains I) :
    Task.Maintains I (Task.ofAction Run.world >>= f) := by
  intro w hw
  rw [Task.ofAction_bind_of_ok (Run.world_run w)]
  exact hf w _ rfl hw

theorem maintains_world : Task.Maintains I (Task.ofAction Run.world) :=
  Run.maintains_world

/-! ## Attributes and paths

What an attribute gives may have to be made: a method is a new object, and a property calls its
function. So these computations call others, and what is shown of them supposes that those keep the
invariant. -/

theorem maintains_ofAccess (hI : IsInvariant I) (hrespond : respond.Maintains I)
    (found : Access) : (ofAccess respond found).Maintains I := by
  cases found with
  | value v => exact .pure _
  | bound func receiver =>
    exact .ofAction (Run.maintains_make hI fun _ => Object.noConfusion)
  | computed getter receiver => exact hrespond _

theorem maintains_member (hI : IsInvariant I) (hrespond : respond.Maintains I) (v : Value)
    (name : String) : (member respond v name).Maintains I := by
  refine maintains_world.bind fun w => ?_
  split
  · exact maintains_ofAccess hI hrespond _
  · exact .fault _

theorem maintains_walk (hI : IsInvariant I) (hrespond : respond.Maintains I) (v : Value)
    (names : List String) : (walk respond v names).Maintains I :=
  .foldlM (maintains_member hI hrespond) names v

theorem maintains_follow (hI : IsInvariant I) (hrespond : respond.Maintains I) (home : Nat)
    (path : Path) : (follow respond home path).Maintains I := by
  refine maintains_world.bind fun w => ?_
  split
  · split
    · exact maintains_walk hI hrespond _ _
    · exact .fault _
  · exact .fault _

/-! ## Bodies

A body does one thing after the other, each by a computation of its own, with the values of its
parameters. There is one case for each thing that it can do. -/

theorem maintains_valueIn (frame : Frame) (name : String) :
    (valueIn frame name).Maintains I :=
  maintains_world.bind fun _ => Action.Maintains.ofExcept _

theorem maintains_raiseValue (v : Value) : (raiseValue v).Maintains I := by
  unfold raiseValue
  split
  · split
    · exact .raise _
    · exact .fault _
  · split
    · exact .raise _
    · exact .fault _

theorem maintains_appendTo (hI : IsInvariant I) (list v : Value) :
    (appendTo list v).Maintains I := by
  refine Run.maintains_world_bind fun w hw => ?_
  cases list with
  | object r line =>
    rcases hr : w.behind? (.object r line) with _ | object
    · exact hw
    · cases object with
      | items xs => exact hI (.put hr rfl fun _ => Object.noConfusion) rfl hw
      | _ => exact hw
  | _ => exact hw

theorem maintains_prepend (v list : Value) : (prepend v list).Maintains I := by
  refine Run.maintains_world.bind fun w => ?_
  split
  · exact .pure _
  · exact .fault _

theorem maintains_within (hI : IsInvariant I) (values : Context.Fields) {x : Task World Value}
    (hx : x.Maintains I) : (within values x).Maintains I := by
  refine maintains_world.bind fun w => ?_
  refine Task.Maintains.always ?_ fun u hu => hI (.journal u _) rfl hu
  refine (Task.Maintains.ofAction (Run.maintains_logging hI fun t j hj => ?_)).bind fun _ => hx
  exact hj

theorem maintains_callIn (hrespond : respond.Maintains I) (frame : Frame) (callee : Value)
    (arguments : List Value) : (callIn respond frame callee arguments).Maintains I := by
  refine (hrespond _).bind fun result => maintains_world.bind fun w => ?_
  split
  · exact hrespond _
  · exact .pure _

theorem maintains_perform (hI : IsInvariant I) (hrespond : respond.Maintains I) (frame : Frame)
    (deed : Deed) : (perform respond frame deed).Maintains I := by
  have hvalue (name : String) : (valueIn frame name).Maintains I := maintains_valueIn frame name
  -- only `within` and `pause` hold other deeds; what is called goes to `respond`
  induction deed with
  | rest | give | arguments => exact .pure _
  | argument name => exact hvalue name
  | raises r => exact .raise r
  | raisesArgument name => exact (hvalue name).bind maintains_raiseValue
  | append name v =>
    exact (hvalue name).bind fun list => .ofAction (maintains_appendTo hI list v)
  | call path pass =>
    refine (maintains_follow hI hrespond _ path).bind fun callee => ?_
    exact (Task.Maintains.mapM hvalue pass).bind (maintains_callIn hrespond frame callee)
  | method name pass =>
    refine (hvalue "self").bind fun self => ?_
    refine (maintains_member hI hrespond self name).bind fun callee => ?_
    exact (Task.Maintains.mapM hvalue pass).bind (maintains_callIn hrespond frame callee)
  | countdown name path =>
    refine (hvalue name).bind fun v => ?_
    split
    · exact .fault _
    · split
      · exact .pure _
      · refine (maintains_follow hI hrespond _ path).bind fun callee => ?_
        refine (maintains_callIn hrespond frame callee _).bind fun list => ?_
        exact .ofAction (maintains_prepend _ list)
  | within values deed ih => exact maintains_within hI values ih
  | pause deed ih => exact Task.Maintains.pause.bind fun _ => ih

/-! ## Logged calls

Around a call the log point is got hold of, the call is recorded before and after, and the values of
the parameters are looked at. In between the call itself is made, of which it is supposed again that
it keeps the invariant. -/

theorem maintains_around (hI : IsInvariant I) (b : BoundPoint) (arguments : Option (List Value))
    {call : Task World Value} (hcall : call.Maintains I) :
    (b.around arguments call).Maintains I := by
  have hsteady := Journal.isSteady_threshold
  have hlogCall (values : List Value) : (b.logCall values).Maintains I :=
    Run.maintains_world.bind fun _ => Run.maintains_logging hI fun t =>
      LogPoint.maintains_logCall (hsteady t) _
  have hlogResult (result : Value) : (b.logResult result).Maintains I :=
    Run.maintains_world.bind fun _ => Run.maintains_logging hI fun t =>
      LogPoint.maintains_logResult (hsteady t) _ _
  have hlogFailure (r : Raised) : (b.logFailure r).Maintains I :=
    Run.maintains_world.bind fun _ => Run.maintains_logging hI fun t =>
      LogPoint.maintains_logFailure (hsteady t) _ _
  have hunlogged : (b.around none call).Maintains I := by
    refine hcall.attempt.bind fun outcome => ?_
    rcases outcome with r | result
    · dsimp only
      split
      · exact (Task.Maintains.ofAction (hlogFailure r)).bind fun _ => .raise r
      · exact .raise r
    · exact (Task.Maintains.ofAction (hlogResult result)).bind fun _ => .pure _
  rcases arguments with _ | values
  · exact hunlogged
  · exact (Task.Maintains.ofAction (hlogCall values)).bind fun _ => hunlogged

/-- The log point of a call is got hold of in the world as it is. -/
theorem maintains_intercept (hI : IsInvariant I) {r : Nat} {l : LoggedFunction}
    (arguments : Arguments) {call : Task World Value} (hcall : call.Maintains I) {w : World}
    (hl : w.object? r = some (.logged l)) (hw : I w) :
    (l.intercept r arguments call w).Maintains I := by
  have hbound : I (l.bound r w).2 := hI (.bound hl) (l.threshold_bound r w) hw
  rcases h : l.bound r w with ⟨raised | b, u⟩
  · -- without a log point nothing is called
    rw [LoggedFunction.intercept]
    rw [h] at hbound
    refine (congrArg (Progress.Maintains I) (Task.ofAction_bind_of_error h _)).mpr ?_
    exact hbound
  · rw [h] at hbound
    rw [LoggedFunction.intercept_run h]
    exact maintains_around hI b _ hcall u hbound

/-! ## Calls

What a call does depends on what is called. Each kind of value has its own computation, and each of
these asks for calls that are nested in it. -/

theorem maintains_callFunction (hI : IsInvariant I) (hrespond : respond.Maintains I) (r : Nat)
    (f : Function) (arguments : Arguments) :
    (callFunction respond r f arguments).Maintains I := by
  refine (Task.Maintains.ofAction (.ofExcept _)).bind fun values => ?_
  split
  · exact .ofAction (Run.maintains_make hI fun _ => Object.noConfusion)
  · exact maintains_perform hI hrespond _ _

theorem maintains_callLogged (hI : IsInvariant I) (hrespond : respond.Maintains I) {r : Nat}
    {l : LoggedFunction} (arguments : Arguments) {w : World}
    (hl : w.object? r = some (.logged l)) (hw : I w) :
    (callLogged respond r l arguments w).Maintains I := by
  rw [callLogged]
  by_cases hself : (arguments.named.any fun e => e.1 = "self") = true
  · rw [if_pos hself]
    exact hw
  · rw [if_neg hself]
    by_cases hasync : l.isAsync = true
    · rw [if_pos hasync]
      exact Task.Maintains.ofAction (Run.maintains_make hI fun _ => Object.noConfusion) w hw
    · rw [if_neg hasync]
      exact maintains_intercept hI arguments (hrespond _) hl hw

theorem maintains_callMember (hrespond : respond.Maintains I) (world : World)
    (member receiver : Value) (c : Class) (arguments : Arguments) :
    (callMember respond world member receiver c arguments).Maintains I := by
  rw [callMember]
  split
  · exact hrespond _
  · exact hrespond _
  · exact (hrespond _).bind fun _ => hrespond _

theorem maintains_newInstance (hI : IsInvariant I) (c : Class) (arguments : Arguments)
    (hasInitializer : Bool) : (newInstance c arguments hasInitializer).Maintains I := by
  have hmake (members : Members) : (Run.make (.instance c members)).Maintains I :=
    Run.maintains_make hI fun _ => Object.noConfusion
  rw [newInstance]
  split
  · split
    · exact .pure _
    · split
      · exact .pure _
      · exact Run.maintains_refuseArguments
  · split
    · exact hmake []
    · exact (Run.maintains_inheritedMembers _ arguments).bind hmake

theorem maintains_callClass (hI : IsInvariant I) (hrespond : respond.Maintains I) (c : Class)
    (arguments : Arguments) : (callClass respond c arguments).Maintains I := by
  cases c with
  | known k => exact .ofAction (Run.maintains_construct hI k arguments)
  | made r ancestors =>
    refine maintains_world.bind fun w => ?_
    refine (Task.Maintains.ofAction (maintains_newInstance hI _ arguments _)).bind fun made => ?_
    split
    · exact .pure _
    · refine maintains_world.bind fun u => ?_
      refine (maintains_callMember hrespond u _ made _ arguments).bind fun result => ?_
      split
      · exact .pure _
      · exact .fault _

theorem maintains_lengthOf (v : Value) : (lengthOf v).Maintains I := by
  refine Run.maintains_world.bind fun w => ?_
  split
  · exact .pure _
  · exact .fault _

theorem maintains_callDirectly (hI : IsInvariant I) (hrespond : respond.Maintains I) (v : Value)
    (arguments : Arguments) : (callDirectly respond v arguments).Maintains I := by
  rw [callDirectly.eq_def]
  split
  · exact maintains_callClass hI hrespond _ arguments
  · -- an object is called by what it is in the world as it is
    refine maintains_world_bind fun w x hx hw => ?_
    split at hx
    · subst hx
      exact maintains_callFunction hI hrespond _ _ arguments w hw
    · rename_i hlogged
      subst hx
      exact maintains_callLogged hI hrespond arguments hlogged hw
    · suffices h : x.Maintains I from h w hw
      subst hx
      refine (Task.Maintains.ofAction (.ofExcept _)).bind fun values => ?_
      split
      · exact .ofAction (Run.maintains_decorate hI _ _)
      · exact .fault _
    · suffices h : x.Maintains I from h w hw
      subst hx
      split
      · exact .ofAction (maintains_lengthOf _)
      · exact .fault _
    · suffices h : x.Maintains I from h w hw
      subst hx
      split
      · exact .fault _
      · split
        · exact .fault _
        · exact maintains_callMember hrespond w _ _ _ arguments

theorem maintains_callValue (hI : IsInvariant I) (hrespond : respond.Maintains I) (v : Value)
    (arguments : Arguments) : (callValue respond v arguments).Maintains I :=
  maintains_world.bind fun _ => maintains_callDirectly hI hrespond _ _

/-! ## Coroutines

A coroutine is run when it is awaited, and what it does then is one of the computations above. -/

theorem maintains_runJob (hI : IsInvariant I) (hrespond : respond.Maintains I) (job : Job) :
    (runJob respond job).Maintains I := by
  cases job with
  | «over» => exact .fault _
  | body r values =>
    refine maintains_world.bind fun w => ?_
    split
    · exact maintains_perform hI hrespond _ _
    · exact .pure _
  | logged r arguments =>
    refine maintains_world_bind fun w x hx hw => ?_
    split at hx
    · rename_i l hl
      subst hx
      exact maintains_intercept hI arguments ((hrespond _).bind fun _ => hrespond _) hl hw
    · subst hx
      exact hw

theorem maintains_awaitValue (hI : IsInvariant I) (hrespond : respond.Maintains I) (v : Value) :
    (awaitValue respond v).Maintains I := by
  refine maintains_world_bind fun w x hx hw => ?_
  split at hx
  · rename_i r line name job hr
    subst hx
    -- first the coroutine is spent
    have hspent : I (w.put r (.coroutine name .over)) :=
      hI (.put hr rfl fun _ => Object.noConfusion) rfl hw
    refine (congrArg (Progress.Maintains I) (Task.ofAction_bind_of_ok rfl _)).mpr ?_
    refine (maintains_runJob hI hrespond job).attempt.bind (fun outcome => ?_) _ hspent
    rcases outcome with raised | result
    · dsimp only
      split
      · exact .fault _
      · exact .raise _
    · exact .pure _
  · subst hx
    exact hw

/-- **Calling and awaiting keep every invariant** that everything keeps that programs do. By
induction on the depth: what is nested in a call has less depth, so it keeps the invariant, and then
the call itself does, as was shown for each kind of callable. -/
theorem respondWithin_maintains (hI : IsInvariant I) (depth : Nat) :
    (respondWithin depth).Maintains I := by
  -- one level deeper, every call is answered by what keeps the invariant already
  induction depth with
  | zero => exact fun _ => .fault _
  | succ depth ih =>
    intro request
    cases request with
    | call v arguments => exact maintains_callValue hI ih v arguments
    | await v => exact maintains_awaitValue hI ih v

end Evaluation

end CallLog
