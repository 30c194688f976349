import CallLog.Evaluation
import CallLog.Proofs.Task

/-!
# Calls and coroutines

What calling a function and calling a logged function come to, and what awaiting a coroutine comes
to. A coroutine is never ended by the exception that stands for the end of an iteration
(`closed_await`), and so the call of an asynchronous function that is awaited is not either
(`closed_complete`).
-/

namespace CallLog

namespace Run

theorem world_run (w : World) : world w = (.ok w, w) := rfl

end Run

namespace Evaluation

variable {depth ref : Nat} {line : List KnownClass} {w : World}

/-! ## Calls

A call is first forwarded: a method to its function with the receiver in front, and a partial object
to what it was made of. Functions and logged functions are where that ends. So a call of one of them
is made at once, with one level of depth less for what is called inside. -/

/-- A function is called itself, and a logged one as well: nothing is forwarded, however much fuel
there is. -/
theorem forward_object {object : Object} (h : w.object? ref = some object)
    (hobject : (∃ f, object = .function f) ∨ ∃ l, object = .logged l) (n : Nat)
    (arguments : Arguments) :
    forward w n (.object ref line) arguments = (.object ref line, arguments) := by
  have hbehind : w.behind? (.object ref line) = some object := h
  cases n with
  | zero => rfl
  | succ n =>
    rw [forward, hbehind]
    rcases hobject with ⟨f, rfl⟩ | ⟨l, rfl⟩ <;> rfl

/-- A function is called. -/
theorem call_function {f : Function} (h : w.object? ref = some (.function f))
    (arguments : Arguments) :
    respondWithin (depth + 1) (.call (.object ref line) arguments) w =
      callFunction (respondWithin depth) ref f arguments w := by
  have hbehind : w.behind? (.object ref line) = some (.function f) := h
  rw [respondWithin, callValue]
  refine (Task.ofAction_bind_of_ok (Run.world_run w) _).trans ?_
  rw [forward_object h (.inl ⟨f, rfl⟩)]
  simp only [callDirectly, World.asClass?]
  refine (Task.ofAction_bind_of_ok (Run.world_run w) _).trans ?_
  rw [hbehind]

/-- Arguments that do not fit are refused. That is so for an asynchronous function too: it is
refused when it is called, and not when it is awaited. -/
theorem callFunction_of_error {respond : Responder} {f : Function} {arguments : Arguments}
    {fault : Fault} (h : f.signature.accept arguments = .error fault) :
    callFunction respond ref f arguments w = .done (.error (.fault fault)) w := by
  rw [callFunction, h]
  rfl

/-- The call of an asynchronous function makes a coroutine, and nothing of its body is run. The
values of the parameters are kept in the coroutine. -/
theorem callFunction_async {respond : Responder} {f : Function} (hasync : f.isAsync = true)
    {arguments : Arguments} {values : List Value}
    (h : f.signature.accept arguments = .ok values) :
    callFunction respond ref f arguments w =
      .done (.ok (.object w.objects.size [.object]))
        { w with objects := w.objects.push (.coroutine f.qualname (.body ref values)) } := by
  rw [callFunction, h]
  refine (Task.ofAction_bind_of_ok rfl _).trans ?_
  rw [if_pos hasync]
  rfl

/-- A logged function is called. -/
theorem call_logged {l : LoggedFunction} (h : w.object? ref = some (.logged l))
    (arguments : Arguments) :
    respondWithin (depth + 1) (.call (.object ref line) arguments) w =
      callLogged (respondWithin depth) ref l arguments w := by
  have hbehind : w.behind? (.object ref line) = some (.logged l) := h
  rw [respondWithin, callValue]
  refine (Task.ofAction_bind_of_ok (Run.world_run w) _).trans ?_
  rw [forward_object h (.inr ⟨l, rfl⟩)]
  simp only [callDirectly, World.asClass?]
  refine (Task.ofAction_bind_of_ok (Run.world_run w) _).trans ?_
  rw [hbehind]

/-! ## Coroutines

The exception that ends an iteration cannot leave a coroutine, since a loop that runs the coroutine
would take it for its end. It is replaced by a fault. For a logged function this matters: what it
awaits is a coroutine, and it is one itself, so the same outcome is left with twice. -/

/-- How a coroutine is left: not with the exception that stands for the end of an iteration. -/
def leave : Except Raised Value → Task World Value
  | .ok result => pure result
  | .error r =>
    if r.kind.derivesFrom .stopIteration then Task.fault .stoppedCoroutine else Task.raise r

/-- An outcome that a coroutine is left with. -/
def Closed (outcome : Except Raised Value) : Prop :=
  ∀ r, outcome = .error r → r.kind.derivesFrom .stopIteration = false

/-- An outcome that a coroutine was left with is not changed by leaving another one. -/
theorem leave_of_closed {outcome : Except Raised Value} (h : Closed outcome) (w : World) :
    leave outcome w = .done outcome w := by
  rcases outcome with r | result
  · rw [leave, h r rfl]
    rfl
  · rfl

theorem closed_fault (f : Fault) : Closed (.error (.fault f)) := by
  rintro r ⟨⟩
  cases f <;> rfl

theorem closed_ok (v : Value) : Closed (.ok v) := by
  rintro r ⟨⟩

/-- However a coroutine ends, it is left with a closed outcome. -/
theorem closed_leave {outcome o : Except Raised Value} {u : World}
    (h : (leave outcome w).Ends o u) : Closed o := by
  rcases outcome with r | result
  · rw [leave] at h
    by_cases hstop : r.kind.derivesFrom .stopIteration = true
    · rw [if_pos hstop] at h
      obtain ⟨rfl, -⟩ := Progress.ends_done_iff.mp h
      exact closed_fault _
    · rw [if_neg hstop] at h
      obtain ⟨rfl, -⟩ := Progress.ends_done_iff.mp h
      rintro r' ⟨⟩
      simpa using hstop
  · obtain ⟨rfl, -⟩ := Progress.ends_done_iff.mp h
    exact closed_ok result

/-- A coroutine that is awaited is spent, does what it does, and is left. It is spent before it
begins, so it cannot be awaited again from inside. -/
theorem await_run {name : String} {job : Job} (h : w.object? ref = some (.coroutine name job)) :
    respondWithin (depth + 1) (.await (.object ref line)) w =
      (runJob (respondWithin depth) job (w.put ref (.coroutine name .over))).andThen leave := by
  have hbehind : w.behind? (.object ref line) = some (.coroutine name job) := h
  rw [respondWithin, awaitValue]
  refine (Task.ofAction_bind_of_ok (Run.world_run w) _).trans ?_
  rw [hbehind]
  dsimp only
  refine (Task.ofAction_bind_of_ok rfl _).trans ?_
  exact Task.attempt_bind _ leave _

/-- What is no coroutine cannot be awaited. -/
theorem await_other {v : Value}
    (h : ∀ r line name job, v = .object r line → w.object? r ≠ some (.coroutine name job)) :
    ∃ f, respondWithin (depth + 1) (.await v) w = .done (.error (.fault f)) w := by
  rw [respondWithin, awaitValue]
  refine ⟨.unsupported "the value cannot be awaited", ?_⟩
  refine (Task.ofAction_bind_of_ok (Run.world_run w) _).trans ?_
  refine congrFun (g := Task.fault (.unsupported "the value cannot be awaited")) ?_ w
  split
  · rename_i r line name job hbehind
    exact absurd hbehind (h r line name job rfl)
  · rfl

/-- **What is awaited** is left with a closed outcome. It is a coroutine, or awaiting it is a
fault. -/
theorem closed_await {v : Value} {outcome : Except Raised Value} {u : World}
    (h : (respondWithin depth (.await v) w).Ends outcome u) : Closed outcome := by
  cases depth with
  | zero =>
    obtain ⟨rfl, -⟩ := Progress.ends_done_iff.mp h
    exact closed_fault _
  | succ depth =>
    by_cases hv : ∃ r line name job, v = .object r line ∧
        w.object? r = some (.coroutine name job)
    · obtain ⟨r, line, name, job, rfl, hr⟩ := hv
      rw [await_run hr] at h
      obtain ⟨o, t, -, hleave⟩ := Progress.ends_andThen.mp h
      exact closed_leave hleave
    · have hnone (r : Nat) (line : List KnownClass) (name : String) (job : Job)
          (hobject : v = .object r line) : w.object? r ≠ some (.coroutine name job) :=
        fun hr => hv ⟨r, line, name, job, hobject, hr⟩
      obtain ⟨f, hother⟩ :
          ∃ f, respondWithin (depth + 1) (.await v) w = .done (.error (.fault f)) w :=
        await_other hnone
      rw [hother] at h
      obtain ⟨rfl, -⟩ := Progress.ends_done_iff.mp h
      exact closed_fault f

/-! ## Whole calls -/

/-- Calls a value. The coroutine of an asynchronous call is awaited. -/
def complete (respond : Responder) (isAsync : Bool) (v : Value) (arguments : Arguments) :
    Task World Value :=
  if isAsync then do respond (.await (← respond (.call v arguments)))
  else respond (.call v arguments)

/-- **A whole asynchronous call** of a function ends with a closed outcome. Either its arguments are
refused, or there is a coroutine, which is awaited. -/
theorem closed_complete {f : Function} (hf : w.object? ref = some (.function f))
    (hasync : f.isAsync = true) {arguments : Arguments} {outcome : Except Raised Value} {u : World}
    (h : (complete (respondWithin depth) true (.object ref line) arguments w).Ends outcome u) :
    Closed outcome := by
  rw [complete, if_pos rfl, Task.bind_apply] at h
  obtain ⟨o, v, hcall, hawait⟩ := Progress.ends_andThen.mp h
  rcases o with r | coroutine
  · obtain ⟨rfl, -⟩ := Progress.ends_done_iff.mp hawait
    -- the call itself only makes a coroutine, so what it raises is a fault
    cases depth with
    | zero =>
      obtain ⟨hfault, -⟩ := Progress.ends_done_iff.mp hcall
      rw [hfault]
      exact closed_fault _
    | succ depth =>
      rw [call_function hf] at hcall
      rcases haccept : f.signature.accept arguments with fault | values
      · rw [callFunction_of_error haccept] at hcall
        obtain ⟨hfault, -⟩ := Progress.ends_done_iff.mp hcall
        rw [hfault]
        exact closed_fault _
      · rw [callFunction_async hasync haccept] at hcall
        obtain ⟨hok, -⟩ := Progress.ends_done_iff.mp hcall
        cases hok
  · exact closed_await hawait

end Evaluation

end CallLog
