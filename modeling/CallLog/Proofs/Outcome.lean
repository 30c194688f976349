import CallLog.Proofs.Interception
import CallLog.Proofs.LogPoint.Writable

/-!
# What logging does to the outcome of a call

Values are logged before a call and after it. If one of them cannot be written, that raises, and the
call ends there: before its target is called, or with the result of its target lost. The main
statement, `logging_outcome`, says that this is the only way in which logging changes a call, and
for which values it happens. Converters that fail do not matter as such, and neither does what the
target raises.
-/

namespace CallLog

open LogPoint (Operation)

theorem World.length_settledAll (w : World) (values : List Value) :
    (w.settledAll values).length = values.length := by
  induction values with
  | nil => rw [settledAll]
  | cons v values ih => rw [settledAll, List.length_cons, List.length_cons, ih]

namespace BoundPoint

variable {b : BoundPoint} {w : World} {op : Option Operation}

/-- A log point without context, in a world: see `LogPoint.IsPlain`. -/
def IsPlain (b : BoundPoint) (w : World) : Prop :=
  b.point.IsPlain w.naming w.journal

/-- What is logged can be written. -/
def CanWrite (b : BoundPoint) (w : World) (op : Option Operation) : Prop :=
  ∀ o, b.logged op = some o → o.IsWritable w.naming b.point w.journal

/-- What can be written does not raise. This is where the conditions on values come in: everything
else that an operation does is known to go well for a log point without context. -/
theorem perform_of_canWrite (hplain : b.IsPlain w) (h : b.CanWrite w op) :
    ∃ w', b.perform op w = (.ok (), w') := by
  rcases hlogged : b.logged op with _ | o
  · exact ⟨w, perform_of_not_logged hlogged w⟩
  · obtain ⟨rfl, hasked⟩ := Option.filter_eq_some_iff.mp hlogged
    obtain ⟨j, hrun⟩ := Operation.run_of_isWritable hplain hasked (h o hlogged)
    rw [perform_some, hrun]
    exact ⟨_, rfl⟩

/-- What cannot be written raises a fault, and only reports are left of it: it is never written in
part. -/
theorem perform_of_not_canWrite (hplain : b.IsPlain w) (h : ¬ b.CanWrite w op) :
    ∃ f w', b.perform op w = (.error (.fault f), w') ∧ w.Kept w' := by
  obtain ⟨o, hlogged, hwritable⟩ : ∃ o, b.logged op = some o ∧
      ¬ o.IsWritable w.naming b.point w.journal := by
    simpa [CanWrite] using h
  obtain ⟨rfl, hasked⟩ := Option.filter_eq_some_iff.mp hlogged
  obtain ⟨f, j, hrun, hreported⟩ := Operation.run_of_not_isWritable hplain hasked hwritable
  rw [perform_some, hrun]
  exact ⟨f, _, rfl, ⟨rfl, rfl, hreported⟩⟩

theorem conclude_of_error {outcome : Except Raised Value} {r : Raised} {w' : World}
    (h : b.perform (closing w outcome) w = (.error r, w')) :
    b.conclude outcome w = .done (.error r) w' := by
  rw [conclude, h]

/-- A call whose arguments cannot be logged is not made. -/
theorem around_of_error {arguments : Option (List Value)} {r : Raised} {w' : World}
    (h : b.perform (opening w arguments) w = (.error r, w')) (call : Task World Value) :
    b.around arguments call w = .done (.error r) w' := by
  rcases arguments with _ | values
  · cases (Prod.mk.inj h).1
  · rw [← logCall_run] at h
    rw [around]
    exact Task.ofAction_bind_of_error h _

/-- What the target raises can be logged. The text of an exception is not asked for: it is handed
over as it is, and a record shows even one whose text raises. -/
theorem canWrite_closing_error (b : BoundPoint) (w : World) (r : Raised) :
    b.CanWrite w (closing w (.error r)) := by
  intro o ho
  obtain ⟨hclosing, -⟩ := Option.filter_eq_some_iff.mp ho
  rw [closing] at hclosing
  split at hclosing
  · obtain rfl := Option.some.inj hclosing
    exact Operation.isWritable_failure _ _ _ _
  · cases hclosing

/-- A result can be logged if it can be written, or if results are not logged. They are not where
the function is annotated to return nothing. -/
theorem canWrite_closing_ok_iff (hplain : b.IsPlain w)
    (hlevel : (Sink.logger b.logger).takes b.point.plan.level.number = true) (result : Value) :
    b.CanWrite w (closing w (.ok result)) ↔
      (b.point.plan.logResult = true →
        (b.point.registryAt w.journal).Writes w.naming (w.settled result)) := by
  have hlogged : b.logged (closing w (.ok result)) =
      if b.point.plan.logResult then some (.result (w.settled result)) else none := by
    simp [logged, closing, Option.filter, Operation.isLogged, Operation.isAsked, hlevel]
  rw [CanWrite, hlogged]
  rcases hresult : b.point.plan.logResult with _ | _
  · simp
  · simp [Operation.isWritable_result_iff hplain hresult]

/-- Arguments can be logged if those that the plan looks at can be written, and if the message has
no slots to spare. Arguments that are excluded are not looked at, so they may be anything. -/
theorem canWrite_opening_iff (hplain : b.IsPlain w)
    (hlevel : (Sink.logger b.logger).takes b.point.plan.level.number = true) {m : Metadata}
    (hplan : m.plan = .ok b.point.plan) (hnumbered : Parameter.Numbered m.parameters)
    {values : List Value} (hlen : values.length = m.parameters.length) :
    b.CanWrite w (opening w (some values)) ↔
      (∀ v, b.point.plan.Looks (w.settledAll values) v →
        (b.point.registryAt w.journal).Writes w.naming v) ∧
      (m.spareSlots = 0 ∨ b.point.plan.values (b.point.shownAt w.naming w.journal)
        (w.settledAll values) = []) := by
  have hlogged : b.logged (opening w (some values)) = some (.call (w.settledAll values)) := by
    simp [logged, opening, Option.filter, Operation.isLogged, Operation.isAsked, hlevel]
  have hlength : (w.settledAll values).length = m.parameters.length := by
    rw [World.length_settledAll, hlen]
  rw [CanWrite, hlogged, ← Operation.isWritable_call_iff hplain hplan hnumbered hlength]
  simp

end BoundPoint

namespace LoggedFunction

open Evaluation (respondWithin)

variable {depth ref : Nat} {l : LoggedFunction} {arguments : Arguments} {b : BoundPoint}
  {x : Progress World Value} {w w₁ : World}

/-- A call whose opening is logged is one call of the target. That ends the call as it ends itself,
unless logging this raises: then the fault is the end. -/
theorem Begins.made {w₂ : World} (hbegins : Begins depth ref l arguments x w) (hwraps : l.Wraps w)
    (hbound : l.bound ref w = (.ok b, w₁))
    (hopening : b.perform (BoundPoint.opening w₁ (l.shownArguments w₁ arguments)) w₁ =
      (.ok (), w₂)) :
    ∃ last : Except Raised Value → World → Progress World Value,
      x = (l.callTarget depth arguments w₂).andThen last ∧
      ∀ outcome v, (l.callTarget depth arguments w₂).Ends outcome v →
        (∀ v', b.perform (BoundPoint.closing v outcome) v = (.ok (), v') →
          last outcome v = .done outcome v') ∧
        ∀ f v', b.perform (BoundPoint.closing v outcome) v = (.error (.fault f), v') →
          last outcome v = .done (.error (.fault f)) v' := by
  obtain ⟨t, line, f, htarget, hf, hasync⟩ := hwraps
  have hwraps : l.Wraps w₂ := ⟨t, line, f, htarget, function_kept hf hbegins.object?
    (bound_prepared hbound) (BoundPoint.writes_of_ok hopening), hasync⟩
  obtain ⟨last, rfl, hlast⟩ := hbegins.run
  rw [intercept_run hbound, BoundPoint.around_run hopening]
  refine ⟨_, Progress.andThen_andThen _ _ _, fun outcome v hends => ⟨?_, ?_⟩⟩
  · intro v' hclosing
    rw [BoundPoint.conclude_of_ok hclosing]
    -- an asynchronous target leaves a coroutine itself, so the one around it changes nothing
    exact hlast outcome v' fun hasync => closed_callTarget hwraps hasync hends
  · intro g v' hclosing
    rw [BoundPoint.conclude_of_error hclosing]
    exact hlast _ _ fun _ => Evaluation.closed_fault g

/-- What logging does to the outcome of a call. -/
structure LoggedOutcome (depth : Nat) (l : LoggedFunction) (arguments : Arguments)
    (b : BoundPoint) (x : Progress World Value) (w₁ : World) : Prop where
  /-- if the arguments can be logged they are, and the target is called, once; what it raises is
  the outcome, and what it returns is the outcome too, unless that cannot be logged -/
  kept : b.CanWrite w₁ (BoundPoint.opening w₁ (l.shownArguments w₁ arguments)) →
    ∃ (w₂ : World) (last : Except Raised Value → World → Progress World Value),
      b.Writes w₁ w₂ (b.logged (BoundPoint.opening w₁ (l.shownArguments w₁ arguments))) ∧
      x = (l.callTarget depth arguments w₂).andThen last ∧
      ∀ outcome v, (l.callTarget depth arguments w₂).Ends outcome v → b.IsPlain v →
        ((∃ r, outcome = .error r) ∨ b.CanWrite v (BoundPoint.closing v outcome) →
          ∃ v', last outcome v = .done outcome v' ∧
            b.Writes v v' (b.logged (BoundPoint.closing v outcome))) ∧
        (¬ b.CanWrite v (BoundPoint.closing v outcome) →
          ∃ f v', last outcome v = .done (.error (.fault f)) v' ∧ v.Kept v')
  /-- if they cannot be logged, the target is not called -/
  lost : ¬ b.CanWrite w₁ (BoundPoint.opening w₁ (l.shownArguments w₁ arguments)) →
    ∃ f w₂, x = .done (.error (.fault f)) w₂ ∧ w₁.Kept w₂
  /-- arguments that do not bind are not logged; others can be if what is shown of them can be
  written, and if the name of the target does not hold a slot -/
  opening : ∀ m : Metadata, m.plan = .ok b.point.plan → Parameter.Numbered m.parameters →
    (∀ values, l.shownArguments w₁ arguments = some values →
      values.length = m.parameters.length) →
    (b.CanWrite w₁ (BoundPoint.opening w₁ (l.shownArguments w₁ arguments)) ↔
      ∀ values, l.shownArguments w₁ arguments = some values →
        (∀ v, b.point.plan.Looks (w₁.settledAll values) v →
          (b.point.registryAt w₁.journal).Writes w₁.naming v) ∧
        (m.spareSlots = 0 ∨ b.point.plan.values (b.point.shownAt w₁.naming w₁.journal)
          (w₁.settledAll values) = []))
  /-- a result can be logged if it can be written, or if results are not logged -/
  closing : ∀ result v, b.IsPlain v →
    (b.CanWrite v (BoundPoint.closing v (.ok result)) ↔
      (b.point.plan.logResult = true →
        (b.point.registryAt v.journal).Writes v.naming (v.settled result)))

/-- **Logging changes the outcome of a call** where a value cannot be written, and nowhere else. The
hypotheses say that the level is taken, since nothing is looked at otherwise, and that the log point
has no context, since that has reasons of its own to raise. -/
theorem logging_outcome (hbegins : Begins depth ref l arguments x w) (hwraps : l.Wraps w)
    (hbound : l.bound ref w = (.ok b, w₁))
    (hlevel : (Sink.logger b.logger).takes b.point.plan.level.number = true)
    (hplain : b.IsPlain w₁) : LoggedOutcome depth l arguments b x w₁ := by
  refine ⟨fun hopening => ?_, fun hopening => ?_, ?_, ?_⟩
  · obtain ⟨w₂, hperform⟩ := BoundPoint.perform_of_canWrite hplain hopening
    obtain ⟨last, hx, hlast⟩ := hbegins.made hwraps hbound hperform
    refine ⟨w₂, last, BoundPoint.writes_of_ok hperform, hx, fun outcome v hends hv => ⟨?_, ?_⟩⟩
    · intro hcan
      have hclosing : b.CanWrite v (BoundPoint.closing v outcome) := by
        rcases hcan with ⟨r, rfl⟩ | hcan
        · exact BoundPoint.canWrite_closing_error b v r
        · exact hcan
      obtain ⟨v', hclose⟩ := BoundPoint.perform_of_canWrite hv hclosing
      exact ⟨v', (hlast outcome v hends).1 v' hclose, BoundPoint.writes_of_ok hclose⟩
    · intro hcannot
      obtain ⟨g, v', hclose, hkept⟩ := BoundPoint.perform_of_not_canWrite hv hcannot
      exact ⟨g, v', (hlast outcome v hends).2 g v' hclose, hkept⟩
  · obtain ⟨f, w₂, hperform, hkept⟩ := BoundPoint.perform_of_not_canWrite hplain hopening
    obtain ⟨last, rfl, hlast⟩ := hbegins.run
    refine ⟨f, w₂, ?_, hkept⟩
    rw [intercept_run hbound, BoundPoint.around_of_error hperform]
    exact hlast _ _ fun _ => Evaluation.closed_fault f
  · intro m hplan hnumbered hlen
    rcases hshown : l.shownArguments w₁ arguments with _ | values
    · refine ⟨fun _ values hvalues => (by cases hvalues), fun _ o ho => ?_⟩
      cases ho
    · rw [BoundPoint.canWrite_opening_iff hplain hlevel hplan hnumbered (hlen values hshown)]
      constructor
      · rintro h values' hvalues
        obtain rfl := Option.some.inj hvalues
        exact h
      · exact fun h => h values rfl
  · intro result v hv
    exact BoundPoint.canWrite_closing_ok_iff hv hlevel result

/-- Converters of which the only one, for a class, fails. -/
def failing (k : KnownClass) : Converters :=
  .ofList [(.ofKnown k, .raises (.known .valueError) [.str "no"])]

/-- A world with a function and a logged function around it, with converters of its own. -/
def sampleWith (converters : Converters) (f : Function) (plan : Plan) : World where
  objects := #[.function f, .logged { sampleLogged f plan with
    current := some ⟨0, ⟨plan, some converters, none⟩, ⟨plan.logger, 0⟩⟩ }, .module "m" []]
  cache := { entries := [(1, ⟨0, plan⟩)], fresh := 1 }

/-- What fails here is caught: such converters are reported on, and the value is displayed. -/
theorem failing_raisesCaught (naming : Naming) (k : KnownClass) :
    (failing k).RaisesCaught naming := by
  intro v converter r hfind hmeaning
  obtain ⟨c, -, hget⟩ := List.exists_of_findSome?_eq_some hfind
  have hentry : (failing k).entries = [(k, .raises (.known .valueError) [.str "no"])] := rfl
  rw [Registry.get?, hentry, List.lookup_cons] at hget
  rcases hc : c == k with _ | _
  · rw [hc] at hget
    cases hget
  · rw [hc] at hget
    obtain rfl := Option.some.inj hget
    obtain rfl := Except.error.inj hmeaning
    rfl

theorem logging_outcome_failing :
    LoggedOutcome 1 { sampleLogged (giving { name := "x" }) givingPlan with
        current := some ⟨0, ⟨givingPlan, some (failing .str), none⟩, ⟨"m", 0⟩⟩ } ⟨[.str "a"], []⟩
      ⟨0, ⟨givingPlan, some (failing .str), none⟩, ⟨"m", 0⟩⟩
      (respondWithin 2 (.call (.object 1 [.object]) ⟨[.str "a"], []⟩)
        (sampleWith (failing .str) (giving { name := "x" }) givingPlan))
      (sampleWith (failing .str) (giving { name := "x" }) givingPlan) := by
  refine logging_outcome (.called rfl rfl (by simp))
    ⟨0, [.object], giving { name := "x" }, rfl, rfl, rfl⟩ rfl rfl ⟨rfl, ?_, ?_⟩
  · exact failing_raisesCaught _ _
  · rintro _ ⟨⟩

/-- An object whose display raises. -/
def mute : Value :=
  .specimen .mute (.int 1)

/-- **A value without a display ends a call** that logs it. As an argument whose converter fails it
keeps the target from being called, and as a result it is lost after the call. -/
theorem mute_ends_call :
    let f := giving { name := "x" }
    let w := sampleWith (failing .mute) f givingPlan
    let g : Function := { f with signature := {}, deed := .give mute }
    let plan := { givingPlan with message := "f", parameters := [] }
    respondWithin 1 (.call (.object 0 [.object]) ⟨[mute], []⟩) w = .done (.ok mute) w ∧
      (∃ w', respondWithin 2 (.call (.object 1 [.object]) ⟨[mute], []⟩) w =
        .done (.error (.fault .noDisplay)) w') ∧
      respondWithin 1 (.call (.object 0 [.object]) {}) (sample g plan) =
        .done (.ok mute) (sample g plan) ∧
      respondWithin 2 (.call (.object 1 [.object]) {}) (sample g plan) =
        .done (.error (.fault .noDisplay))
          { sample g plan with journal := { records := [sampleRecord "f"] } } :=
  ⟨rfl, ⟨_, rfl⟩, rfl, rfl⟩

end LoggedFunction

end CallLog
