import CallLog.Proofs.BoundPoint
import CallLog.Proofs.Evaluation
import CallLog.Proofs.LogPoint.Written

/-!
# Intercepted calls

A logged function does to a call what its target does, and logs around it. `BoundPoint.opening` and
`BoundPoint.closing` say what there is to log before and after a call, `BoundPoint.logged` what of
it is logged, and `BoundPoint.Writes` what a world becomes by it.

The main statement is `call_intercepted`: up to what is logged, the call of a logged function is one
call of its target with the same arguments, pause by pause, and ends as that does. This holds unless
one of the named arguments is called `self`: then nothing is called, and the call fails.
-/

namespace CallLog

open LogPoint (Operation)

namespace BoundPoint

variable {b : BoundPoint} {w w' : World}

/-! ## What is logged

Something is logged at three moments: before a call, after it gave a result, and after it failed.
Each is an operation of the log point, which may have nothing to do there. What is not logged does
not even describe its values, so it cannot fail. -/

/-- Performs an operation of a log point, if there is one. -/
def perform (b : BoundPoint) : Option Operation → Run Unit
  | none => pure ()
  | some op => do
    let world ← Run.world
    Run.logging (op.run world.naming b.point (.logger b.logger))

/-- What there is to log before a call: its arguments, if they bind. -/
def opening (w : World) (arguments : Option (List Value)) : Option Operation :=
  arguments.map fun values => .call (w.settledAll values)

/-- What there is to log after a call: its result, or its failure if handlers catch it. -/
def closing (w : World) : Except Raised Value → Option Operation
  | .ok result => some (.result (w.settled result))
  | .error r => if r.isCaught then some (.failure (w.settled r.toValue)) else none

/-- What is logged of what there is to log. -/
def logged (b : BoundPoint) (op : Option Operation) : Option Operation :=
  op.filter fun op => op.isLogged b.point b.logger

/-- What a world becomes by what is logged: it gets one record, after reports. -/
def Writes (b : BoundPoint) (w w' : World) : Option Operation → Prop
  | none => w' = w
  | some op => ∃ j, op.Wrote w.naming b.point b.logger w.journal j ∧ w' = { w with journal := j }

theorem Writes.object? {op : Option Operation} (h : b.Writes w w' op) (t : Nat) :
    w'.object? t = w.object? t := by
  rcases op with _ | op
  · rw [show w' = w from h]
  · obtain ⟨j, -, rfl⟩ := h
    rfl

theorem perform_some (op : Operation) (w : World) :
    b.perform (some op) w =
      ((op.run w.naming b.point (.logger b.logger) w.journal).1,
        { w with journal := (op.run w.naming b.point (.logger b.logger) w.journal).2 }) := rfl

/-- What is not logged does nothing. -/
theorem perform_of_not_logged {op : Option Operation} (h : b.logged op = none) (w : World) :
    b.perform op w = (.ok (), w) := by
  rcases op with _ | op
  · rfl
  · have hlogged : op.isLogged b.point b.logger = false := by
      simpa [logged, Option.filter] using h
    rw [perform_some, Operation.run_of_not_logged hlogged]

/-- **What is logged is written**, unless logging it raises. There is one record for each operation
that is logged, after reports on values that could not be converted. -/
theorem writes_of_ok {op : Option Operation} (h : b.perform op w = (.ok (), w')) :
    b.Writes w w' (b.logged op) := by
  rcases hop : b.logged op with _ | op'
  · rw [perform_of_not_logged hop] at h
    exact (Prod.mk.inj h).2.symm
  · obtain ⟨rfl, hlogged⟩ := Option.filter_eq_some_iff.mp hop
    rw [perform_some] at h
    obtain ⟨hok, rfl⟩ := Prod.mk.inj h
    exact ⟨_, Operation.wrote_of_ok hlogged (Prod.ext hok rfl), rfl⟩

/-! ## Calls with records around them

Around a call there are two operations, and the call is made between them. What it does in between,
pause by pause, is its own; only its end is looked at. -/

/-- What comes after a call: its end is logged, and then it is the end. If logging raises, that is
the end instead. -/
def conclude (b : BoundPoint) (outcome : Except Raised Value) (w : World) :
    Progress World Value :=
  match b.perform (closing w outcome) w with
  | (.ok (), w') => .done outcome w'
  | (.error r, w') => .done (.error r) w'

theorem conclude_of_ok {outcome : Except Raised Value}
    (h : b.perform (closing w outcome) w = (.ok (), w')) :
    b.conclude outcome w = .done outcome w' := by
  rw [conclude, h]

theorem logCall_run (b : BoundPoint) (values : List Value) (w : World) :
    b.logCall values w = b.perform (opening w (some values)) w := by
  rw [logCall, opening, Option.map_some, perform, Action.bind_of_ok (Run.world_run w),
    Action.bind_of_ok (Run.world_run w), Operation.run]

theorem logResult_run (b : BoundPoint) (result : Value) (w : World) :
    b.logResult result w = b.perform (closing w (.ok result)) w := by
  rw [logResult, closing, perform, Action.bind_of_ok (Run.world_run w),
    Action.bind_of_ok (Run.world_run w), Operation.run]

theorem logFailure_run {r : Raised} (h : r.isCaught = true) (b : BoundPoint) (w : World) :
    b.logFailure r w = b.perform (closing w (.error r)) w := by
  rw [logFailure, closing, if_pos h, perform, Action.bind_of_ok (Run.world_run w),
    Action.bind_of_ok (Run.world_run w), Operation.run]

/-- Where the arguments do not bind there is nothing to log before the call. The call is made all
the same, and its target refuses them. -/
theorem around_none (call : Task World Value) (w : World) :
    b.around none call w = (call w).andThen b.conclude := by
  rw [around]
  dsimp only
  rw [Task.attempt_bind]
  congr 1
  funext outcome v
  -- each kind of end is logged by another operation, or not at all
  rw [conclude]
  rcases outcome with r | result
  · dsimp only
    by_cases hcaught : r.isCaught = true
    · rw [if_pos hcaught, ← logFailure_run hcaught]
      rcases hlog : b.logFailure r v with ⟨r' | _, v'⟩
      · exact Task.ofAction_bind_of_error hlog _
      · exact Task.ofAction_bind_of_ok hlog _
    · rw [if_neg hcaught, closing, if_neg hcaught]
      rfl
  · dsimp only
    rw [← logResult_run]
    rcases hlog : b.logResult result v with ⟨r' | _, v'⟩
    · exact Task.ofAction_bind_of_error hlog _
    · exact Task.ofAction_bind_of_ok hlog _

/-- **A call with its log records around it** is made once, between them. It is made whatever was
logged before, as long as that did not raise. -/
theorem around_run {arguments : Option (List Value)}
    (h : b.perform (opening w arguments) w = (.ok (), w')) (call : Task World Value) :
    b.around arguments call w = (call w').andThen b.conclude := by
  rw [← around_none]
  rcases arguments with _ | values
  · have hw : w' = w := (Prod.mk.inj h).2.symm
    rw [hw]
  · rw [← logCall_run] at h
    rw [around, around]
    exact Task.ofAction_bind_of_ok h _

end BoundPoint

namespace LoggedFunction

open Evaluation (respondWithin complete Closed)

variable {depth ref : Nat} {l : LoggedFunction} {arguments : Arguments} {b : BoundPoint}
  {x : Progress World Value} {w w₁ w₂ : World}

/-! ## Calls of logged functions

A call is intercepted when a logged function is called, or, if it is asynchronous, when what it gave
is awaited. Both come to the same: the log point is got hold of, and the whole call of the target is
made with records around it. -/

/-- The call of the target of a logged function. -/
def callTarget (depth : Nat) (l : LoggedFunction) (arguments : Arguments) : Task World Value :=
  complete (respondWithin depth) l.isAsync l.target arguments

/-- How a call comes to be intercepted, and in which world: a logged function is called, or, if it
is asynchronous, the coroutine of a call is awaited. -/
inductive Begins (depth ref : Nat) (l : LoggedFunction) (arguments : Arguments) :
    Progress World Value → World → Prop where
  | called {w : World} {line : List KnownClass} (hl : w.object? ref = some (.logged l))
      (hsync : l.isAsync = false) (hself : ∀ e ∈ arguments.named, e.1 ≠ "self") :
      Begins depth ref l arguments
        (respondWithin (depth + 1) (.call (.object ref line) arguments) w) w
  | awaited {w : World} {r : Nat} {line : List KnownClass} {name : String}
      (hl : w.object? ref = some (.logged l)) (hasync : l.isAsync = true)
      (hr : w.object? r = some (.coroutine name (.logged ref arguments))) :
      Begins depth ref l arguments (respondWithin (depth + 1) (.await (.object r line)) w)
        (w.put r (.coroutine name .over))

theorem Begins.object? (h : Begins depth ref l arguments x w) :
    w.object? ref = some (.logged l) := by
  cases h with
  | called hl hsync hself => exact hl
  | awaited hl hasync hr =>
    -- the coroutine that is spent is another object
    rw [World.object?_put_ne, hl]
    rintro rfl
    rw [hl] at hr
    cases hr

/-- Logged functions are called under their reference, unless they are given a `self`. An
asynchronous one makes a coroutine that intercepts the call later. -/
theorem call_of_no_self (hl : w.object? ref = some (.logged l))
    (hself : ∀ e ∈ arguments.named, e.1 ≠ "self") (line : List KnownClass) :
    respondWithin (depth + 1) (.call (.object ref line) arguments) w =
      (if l.isAsync then do
          return ← Run.make (.coroutine "LoggedFunction._call_async" (.logged ref arguments))
        else l.intercept ref arguments (respondWithin depth (.call l.target arguments)) :
        Task World Value) w := by
  have hany : (arguments.named.any fun e => e.1 = "self") = false := by
    simpa using hself
  rw [Evaluation.call_logged hl, Evaluation.callLogged, hany]
  rfl

/-- A named argument `self` is refused: the logged function is an object, and takes itself under
that name. -/
theorem call_of_self (hl : w.object? ref = some (.logged l))
    (hself : ∃ e ∈ arguments.named, e.1 = "self") (line : List KnownClass) :
    respondWithin (depth + 1) (.call (.object ref line) arguments) w =
      .done (.error (.fault (.keywordClash "self"))) w := by
  have hany : (arguments.named.any fun e => e.1 = "self") = true := by
    simpa using hself
  rw [Evaluation.call_logged hl, Evaluation.callLogged, hany]
  rfl

/-- **An intercepted call** is the interception of the call of the target, and no outcome that a
coroutine can be left with is changed after it. For a call that is not awaited nothing comes after
it at all. -/
theorem Begins.run (h : Begins depth ref l arguments x w) :
    ∃ last : Except Raised Value → World → Progress World Value,
      x = (l.intercept ref arguments (l.callTarget depth arguments) w).andThen last ∧
        ∀ outcome v, (l.isAsync = true → Closed outcome) → last outcome v = .done outcome v := by
  have hobject := h.object?
  cases h with
  | @called _ line hl hsync hself =>
    refine ⟨.done, ?_, fun outcome v _ => rfl⟩
    rw [call_of_no_self hl hself, Progress.andThen_done, callTarget, complete, hsync]
    rfl
  | @awaited v r line name hl hasync hr =>
    refine ⟨Evaluation.leave, ?_, fun outcome v hclosed =>
      Evaluation.leave_of_closed (hclosed hasync) v⟩
    rw [Evaluation.await_run hr, Evaluation.runJob, callTarget, complete, if_pos hasync]
    refine congrArg (Progress.andThen Evaluation.leave) ?_
    refine (Task.ofAction_bind_of_ok (Run.world_run _) _).trans ?_
    rw [hobject]

theorem intercept_run (h : l.bound ref w = (.ok b, w₁)) (call : Task World Value) :
    l.intercept ref arguments call w = b.around (l.shownArguments w₁ arguments) call w₁ := by
  rw [intercept]
  refine (Task.ofAction_bind_of_ok h _).trans ?_
  exact Task.ofAction_bind_of_ok (Run.world_run w₁) _

/-- The target of a logged function is a function, which is asynchronous if the logged one is. -/
def Wraps (l : LoggedFunction) (w : World) : Prop :=
  ∃ t line f, l.target = .object t line ∧ w.object? t = some (.function f) ∧ f.isAsync = l.isAsync

/-- What an asynchronous target is awaited with is closed, so leaving the coroutine of the logged
function does not change it. -/
theorem closed_callTarget (hwraps : l.Wraps w) (hasync : l.isAsync = true)
    {outcome : Except Raised Value} {u : World}
    (h : (l.callTarget depth arguments w).Ends outcome u) : Closed outcome := by
  obtain ⟨t, line, f, htarget, hf, hf'⟩ := hwraps
  rw [callTarget, hasync, htarget] at h
  exact Evaluation.closed_complete hf (hf'.trans hasync) h

/-- Arguments that do not fit are refused by the target itself, with a fault of its own. -/
theorem callTarget_of_error {t : Nat} {line : List KnownClass} {f : Function} {fault : Fault}
    (htarget : l.target = .object t line) (hf : w.object? t = some (.function f))
    (h : f.signature.accept arguments = .error fault) :
    ∃ g, l.callTarget depth arguments w = .done (.error (.fault g)) w := by
  obtain ⟨g, hcall⟩ : ∃ g, respondWithin depth (.call l.target arguments) w =
      .done (.error (.fault g)) w := by
    rw [htarget]
    cases depth with
    | zero => exact ⟨.callDepth, rfl⟩
    | succ depth =>
      exact ⟨fault, by rw [Evaluation.call_function hf, Evaluation.callFunction_of_error h]⟩
  refine ⟨g, ?_⟩
  rw [callTarget, complete]
  by_cases hasync : l.isAsync = true
  · rw [if_pos hasync, Task.bind_apply, hcall]
    rfl
  · rw [if_neg hasync, hcall]

/-- What is logged before a call does not change functions. -/
theorem function_kept {t : Nat} {f : Function} (hf : w.object? t = some (.function f))
    (hl : w.object? ref = some (.logged l)) (hprepared : Prepared ref l b w w₁)
    {op : Option Operation} (hwrites : b.Writes w₁ w₂ op) :
    w₂.object? t = some (.function f) := by
  have hne : t ≠ ref := by
    rintro rfl
    rw [hl] at hf
    cases hf
  rw [hwrites.object?, hprepared.others t hne, hf]

/-- What the call of a logged function does. -/
structure Intercepted (depth ref : Nat) (l : LoggedFunction) (arguments : Arguments)
    (b : BoundPoint) (x : Progress World Value) (w w₁ w₂ : World) : Prop where
  /-- the log point was got hold of -/
  prepared : Prepared ref l b w w₁
  /-- then the call was logged, if the level is taken and the arguments bind -/
  opened : b.Writes w₁ w₂
    (b.logged (BoundPoint.opening w₁ (l.shownArguments w₁ arguments)))
  /-- then the target is called, once and with the same arguments; however that ends, if logging
  the end does not raise, it is logged and it is the end -/
  called : ∃ last : Except Raised Value → World → Progress World Value,
    x = (l.callTarget depth arguments w₂).andThen last ∧
      ∀ outcome v v', (l.callTarget depth arguments w₂).Ends outcome v →
        b.perform (BoundPoint.closing v outcome) v = (.ok (), v') →
        last outcome v = .done outcome v' ∧
          b.Writes v v' (b.logged (BoundPoint.closing v outcome))
  /-- arguments that do not fit the target end the call at once, with a failure that is logged -/
  unfit : ∀ t line f fault, l.target = .object t line → w.object? t = some (.function f) →
    f.signature.accept arguments = .error fault →
    ∃ g, l.callTarget depth arguments w₂ = .done (.error (.fault g)) w₂ ∧
      BoundPoint.closing w₂ (.error (.fault g)) = some (.failure (.fault g))
  /-- where the level is not taken nothing is done, whatever the converters and providers are -/
  off : (Sink.logger b.logger).takes b.point.plan.level.number = false →
    ∀ converters providers op v,
      BoundPoint.perform { b with point := ⟨b.point.plan, converters, providers⟩ } op v =
        (.ok (), v)
  /-- calling an asynchronous function only makes a coroutine that does all this -/
  coroutine : l.isAsync = true → ∀ given : Arguments, (∀ e ∈ given.named, e.1 ≠ "self") →
    ∀ line v, v.object? ref = some (.logged l) →
      ∃ name, respondWithin (depth + 1) (.call (.object ref line) given) v =
        .done (.ok (.object v.objects.size [.object]))
          { v with objects := v.objects.push (.coroutine name (.logged ref given)) }
  /-- a logged function cannot be given a named argument `self`: nothing is logged or called -/
  refused : ∀ given : Arguments, (∃ e ∈ given.named, e.1 = "self") →
    ∀ line v, v.object? ref = some (.logged l) →
      respondWithin (depth + 1) (.call (.object ref line) given) v =
        .done (.error (.fault (.keywordClash "self"))) v

/-- **The call of a logged function is the call of its target**, up to what is logged. The target is
called in the world that logging has left, where its function is as it was; and its outcome is the
outcome of the whole, unless logging that raises. -/
theorem call_intercepted (hbegins : Begins depth ref l arguments x w) (hwraps : l.Wraps w)
    (hbound : l.bound ref w = (.ok b, w₁))
    (hopening : b.perform (BoundPoint.opening w₁ (l.shownArguments w₁ arguments)) w₁ =
      (.ok (), w₂)) :
    Intercepted depth ref l arguments b x w w₁ w₂ := by
  have hprepared := bound_prepared hbound
  have hwrites := BoundPoint.writes_of_ok hopening
  have hkept {t : Nat} {f : Function} (hf : w.object? t = some (.function f)) :
      w₂.object? t = some (.function f) :=
    function_kept hf hbegins.object? hprepared hwrites
  refine ⟨hprepared, hwrites, ?_, ?_, ?_, ?_, ?_⟩
  · obtain ⟨last, rfl, hlast⟩ := hbegins.run
    rw [intercept_run hbound, BoundPoint.around_run hopening]
    refine ⟨_, Progress.andThen_andThen _ _ _, fun outcome v v' hends hclosing =>
      ⟨?_, BoundPoint.writes_of_ok hclosing⟩⟩
    rw [BoundPoint.conclude_of_ok hclosing]
    -- an asynchronous target leaves a coroutine itself, so the one around it changes nothing
    obtain ⟨t, line, f, htarget, hf, hf'⟩ := hwraps
    exact hlast outcome v' fun hasync =>
      closed_callTarget ⟨t, line, f, htarget, hkept hf, hf'⟩ hasync hends
  · intro t line f fault htarget hf haccept
    obtain ⟨g, hcall⟩ := callTarget_of_error (w := w₂) htarget (hkept hf) haccept
    exact ⟨g, hcall, by rw [BoundPoint.closing, if_pos (Raised.isCaught_fault g)]; rfl⟩
  · intro hoff converters providers op v
    refine BoundPoint.perform_of_not_logged ?_ v
    rcases op with _ | op
    · rfl
    · simp [BoundPoint.logged, Option.filter, Operation.isLogged, hoff]
  · intro hasync given hself line v hl
    refine ⟨"LoggedFunction._call_async", ?_⟩
    rw [call_of_no_self hl hself, if_pos hasync]
    rfl
  · intro given hself line v hl
    exact call_of_self hl hself line

/-- A log point whose logger takes everything. -/
def samplePoint (plan : Plan) : BoundPoint :=
  ⟨0, { plan := plan }, ⟨plan.logger, 0⟩⟩

/-- A logged function around the first object of a world. -/
def sampleLogged (f : Function) (plan : Plan) : LoggedFunction where
  func := .object 0 [.object]
  target := .object 0 [.object]
  interceptor := {}
  signature := f.signature
  isAsync := f.isAsync
  current := some (samplePoint plan)
  labels := {}
  wrapped := .object 0 [.object]

/-- A world with a function and a logged function around it. -/
def sample (f : Function) (plan : Plan) : World where
  objects := #[.function f, .logged (sampleLogged f plan), .module "m" []]
  cache := { entries := [(1, ⟨0, plan⟩)], fresh := 1 }

/-- A function that gives its only parameter. -/
def giving (p : Param) : Function where
  name := "f"
  qualname := "f"
  module := .str "m"
  signature := { params := [p] }
  deed := .argument p.name
  home := 2

/-- The plan for a function of one parameter. -/
def givingPlan : Plan where
  logger := "m"
  level := .debug
  message := "f \x7b\x7d"
  parameters := [.live 0 "x" .any]
  logResult := true

/-- The record of an event of the sample. -/
def sampleRecord (event : String) : Record :=
  [("logger", .str "m"), ("event", .str event), ("level", .str "debug")]

theorem call_intercepted_giving :
    Intercepted 1 1 (sampleLogged (giving { name := "x" }) givingPlan) ⟨[.str "a"], []⟩
      (samplePoint givingPlan)
      (respondWithin 2 (.call (.object 1 [.object]) ⟨[.str "a"], []⟩)
        (sample (giving { name := "x" }) givingPlan))
      (sample (giving { name := "x" }) givingPlan) (sample (giving { name := "x" }) givingPlan)
      { sample (giving { name := "x" }) givingPlan with
        journal := { records := [sampleRecord "f a"] } } :=
  call_intercepted (.called rfl rfl (by simp))
    ⟨0, [.object], giving { name := "x" }, rfl, rfl, rfl⟩ rfl rfl

example : respondWithin 2 (.call (.object 1 [.object]) ⟨[.str "a"], []⟩)
      (sample (giving { name := "x" }) givingPlan) =
    .done (.ok (.str "a")) { sample (giving { name := "x" }) givingPlan with
      journal := { records := [sampleRecord "f a", sampleRecord "return a"] } } := rfl

/-- A function that takes any named arguments takes one that is called `self`, but the logged
function around it does not. -/
theorem giving_refuses_self :
    let f := giving { name := "kw", kind := .others }
    let given : Arguments := ⟨[], [("self", .int 1)]⟩
    f.signature.bind given = some [.dict [(.str "self", .int 1)]] ∧
      respondWithin 1 (.call (.object 0 [.object]) given) (sample f givingPlan) =
        .done (.ok (.dict [(.str "self", .int 1)])) (sample f givingPlan) ∧
      respondWithin 2 (.call (.object 1 [.object]) given) (sample f givingPlan) =
        .done (.error (.fault (.keywordClash "self"))) (sample f givingPlan) :=
  ⟨rfl, rfl, rfl⟩

end LoggedFunction

end CallLog
