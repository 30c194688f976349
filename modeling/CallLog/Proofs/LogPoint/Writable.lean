import CallLog.Proofs.BoundPoint
import CallLog.Proofs.LogPoint.Values

/-!
# What operations can write

An operation without context raises exactly if it is not writable: something is to be shown that
cannot be, or what is shown has no text (`run_of_isWritable`, `run_of_not_isWritable`). Then it
raises a fault and has written nothing but reports.
-/

namespace CallLog

/-! ## Failures that leave reports only

An operation may raise at any of its steps, after reports were written. To know what is left of it,
each step is shown to be quiet: it writes reports only and raises faults only. Then the whole is, up
to the last step, which writes the record or raises. -/

namespace Logging

variable {α β : Type}

/-- A computation writes nothing but reports, and raises nothing but faults. -/
structure IsQuiet (x : Logging α) (j : Journal) : Prop where
  reported : j.Reported (x j).2
  faults : ∀ r, (x j).1 = .error r → ∃ f, r = .fault f

/-- A computation that raises has written nothing but reports, and raises a fault. -/
def FailsQuietly (x : Logging α) (j : Journal) : Prop :=
  ∀ r j', x j = (.error r, j') → (∃ f, r = .fault f) ∧ j.Reported j'

theorem IsQuiet.failsQuietly {x : Logging α} {j : Journal} (h : IsQuiet x j) :
    FailsQuietly x j := by
  intro r j' hx
  have hreported := h.reported
  rw [hx] at hreported
  exact ⟨h.faults r (by rw [hx]), hreported⟩

theorem IsQuiet.reported_of_eq {x : Logging α} {j k : Journal} {a : α} (h : IsQuiet x j)
    (hx : x j = (.ok a, k)) : j.Reported k := by
  have hreported := h.reported
  rwa [hx] at hreported

theorem isQuiet_of_eq {x : Logging α} {j j' : Journal} {a : α} (h : x j = (.ok a, j'))
    (hj : j.Reported j') : IsQuiet x j := by
  refine ⟨by rwa [h], fun r hr => ?_⟩
  rw [h] at hr
  cases hr

/-- Quiet steps one after the other are quiet: what the first reports comes before what the second
does. -/
theorem IsQuiet.bind {x : Logging α} {f : α → Logging β} {j : Journal} (hx : IsQuiet x j)
    (hf : ∀ a k, x j = (.ok a, k) → IsQuiet (f a) k) : IsQuiet (x >>= f) j := by
  refine ⟨Action.bind_rel .trans hx.reported fun a k hk => (hf a k hk).reported, fun r hr => ?_⟩
  rcases h : x j with ⟨r' | a, k⟩
  · rw [Action.bind_of_error h] at hr
    exact hx.faults r (by rw [h, Except.error.inj hr])
  · rw [Action.bind_of_ok h] at hr
    exact (hf a k h).faults r hr

/-- The last step need not be quiet, as long as it has written nothing but reports if it raises. -/
theorem IsQuiet.bind_fails {x : Logging α} {f : α → Logging β} {j : Journal} (hx : IsQuiet x j)
    (hf : ∀ a k, x j = (.ok a, k) → FailsQuietly (f a) k) : FailsQuietly (x >>= f) j := by
  intro r j' h
  rcases hxj : x j with ⟨r' | a, k⟩
  · rw [Action.bind_of_error hxj] at h
    obtain ⟨hr, rfl⟩ := Prod.mk.inj h
    obtain rfl := Except.error.inj hr
    exact hx.failsQuietly _ _ hxj
  · rw [Action.bind_of_ok hxj] at h
    obtain ⟨hfault, hreported⟩ := hf a k hxj r j' h
    exact ⟨hfault, (hx.reported_of_eq hxj).trans hreported⟩

end Logging

namespace LogPoint

open Logging

variable {naming : Naming} {point : LogPoint} {arguments : List Value} {j j' : Journal}

/-- A log point collects no context, its converters return or raise what handlers catch, and what is
bound around its calls can be recorded. -/
structure IsPlain (naming : Naming) (point : LogPoint) (j : Journal) : Prop where
  providers : point.providersAt j = []
  converters : (point.registryAt j).RaisesCaught naming
  bound : j.IsWritable naming

theorem IsPlain.of_reported (h : point.IsPlain naming j) (hj : j.Reported j') :
    point.IsPlain naming j' := by
  obtain ⟨reports, -, rfl⟩ := hj
  exact ⟨h.providers, h.converters, h.bound⟩

theorem IsPlain.gathered (h : point.IsPlain naming j) :
    point.gathered naming j = ⟨.ok [], [], j.counters⟩ := by
  rw [LogPoint.gathered, h.providers]
  rfl

theorem IsPlain.hasText_iff (h : point.IsPlain naming j) {v : Value} :
    (point.shownAt naming j v).HasText naming ↔ (point.registryAt j).Writes naming v :=
  Converters.hasText_shown_iff h.bound h.converters

/-! ## The parts of an operation

The steps of a plain log point are quiet. What is bound around stays what it was, since reports do
not change it, so the next step can report as well. -/

theorem quiet_convert (h : point.IsPlain naming j) (v : Value) :
    IsQuiet (point.convert naming v) j := by
  refine ⟨?_, fun r hr => ?_⟩
  · rw [convert_run]
    exact ⟨_, fun record hrecord => Converters.isReport_of_mem_reports hrecord, rfl⟩
  · rw [convert_run] at hr
    exact Converters.fault_of_shown h.converters hr

theorem quiet_argument (arguments : List Value) (i : Int) (j : Journal) :
    IsQuiet (argument arguments i) j := by
  rw [argument]
  rcases item? arguments i with _ | v
  · refine ⟨.refl j, fun r hr => ⟨.indexOutOfRange, ?_⟩⟩
    exact (Except.error.inj hr).symm
  · exact isQuiet_of_eq rfl (.refl j)

theorem quiet_render (h : point.IsPlain naming j) (arguments : List Value) (rule : Rule) :
    IsQuiet (point.render naming arguments rule) j := by
  cases rule with
  | static text => exact isQuiet_of_eq rfl (.refl j)
  | live i name hint =>
    refine (quiet_argument arguments i j).bind fun v k hv => quiet_convert ?_ v
    obtain ⟨-, rfl⟩ := item?_of_argument hv
    exact h

theorem quiet_mapM_render (h : point.IsPlain naming j) (arguments : List Value)
    (rules : List Rule) : IsQuiet (rules.mapM (point.render naming arguments)) j := by
  induction rules generalizing j with
  | nil => exact isQuiet_of_eq rfl (.refl j)
  | cons rule rules ih =>
    rw [List.mapM_cons]
    have hrender := quiet_render h arguments rule
    refine hrender.bind fun v k hv => ?_
    have hk := h.of_reported (hrender.reported_of_eq hv)
    exact (ih hk).bind fun vs k' _ => isQuiet_of_eq rfl (.refl k')

theorem quiet_insertError (h : point.IsPlain naming j) (error : Value) (positions : List Int)
    (values : List Value) : IsQuiet (point.insertError naming error positions values) j := by
  induction positions generalizing values j with
  | nil => exact isQuiet_of_eq rfl (.refl j)
  | cons i positions ih =>
    have hconvert := quiet_convert h error
    exact hconvert.bind fun v k hv => ih (h.of_reported (hconvert.reported_of_eq hv)) _

theorem quiet_withError (h : point.IsPlain naming j) (arguments values : List Value)
    (fields : Context.Fields) : IsQuiet (point.withError naming arguments values fields) j := by
  rw [withError]
  rcases point.plan.errorParameter with _ | parameter
  · exact isQuiet_of_eq rfl (.refl j)
  · refine (quiet_argument arguments parameter.index j).bind fun error k herror => ?_
    obtain ⟨-, rfl⟩ := item?_of_argument herror
    refine (quiet_insertError h error parameter.positions values).bind fun vs k' _ => ?_
    exact isQuiet_of_eq rfl (.refl k')

theorem context_plain (h : point.IsPlain naming j) : point.context naming j = (.ok [], j) := by
  rw [context_run, h.gathered, Journal.logged_nil]
  rfl

/-- A logger that is handed an event writes it, or it raises and nothing is written. -/
theorem failsQuietly_emit {l : Logger}
    (hlevel : (Sink.logger l).takes point.plan.level.number = true) (event : String)
    (args : List Value) (fields : Context.Fields) (j : Journal) :
    FailsQuietly (point.emit naming (.logger l) event args fields) j := by
  intro r j' h
  rcases hclash : Logger.clash? ["self", "logger", "event"] fields with _ | name
  · have hfree : Logger.clash? ["self", "event"] fields = none :=
      Logger.clash?_of_subset (by simp) hclash
    rw [emit_of_none hclash, Sink.emit_logger hlevel hfree] at h
    rcases hwritten : Logger.written naming l (Logger.shownLevel point.plan.level) event args
        j.bound fields with f | record
    · rw [hwritten] at h
      obtain ⟨hr, rfl⟩ := Prod.mk.inj h
      exact ⟨⟨f, (Except.error.inj hr).symm⟩, .refl j⟩
    · rw [hwritten] at h
      cases h
  · rw [emit_of_some hclash] at h
    obtain ⟨hr, rfl⟩ := Prod.mk.inj h
    exact ⟨⟨_, (Except.error.inj hr).symm⟩, .refl j⟩

namespace Operation

variable {op : Operation} {l : Logger}

/-! ## Operations

Whether an operation raises is known before it is run: it does if something that it shows cannot be
shown, or has no text. These conditions are told for each operation by its values. -/

/-- **An operation that raises** has written nothing but reports, and raises a fault. No record is
left half done. -/
theorem failsQuietly_run (h : point.IsPlain naming j) (hlogged : op.isLogged point l = true) :
    FailsQuietly (op.run naming point (.logger l)) j := by
  obtain ⟨hasked, hlevel⟩ := Bool.and_eq_true_iff.mp hlogged
  have henabled : point.isEnabled (.logger l) j = (.ok true, j) := by
    rw [isEnabled_run, hlevel]
    rfl
  have hemit := @failsQuietly_emit naming point l hlevel
  intro r j' hrun
  cases op with
  | call arguments =>
    rw [run, logCall, Action.bind_of_ok henabled, if_pos rfl] at hrun
    -- values are shown, context is gathered, the error is put in: only the logger may raise
    have hvalues := quiet_mapM_render h arguments point.plan.parameters
    refine hvalues.bind_fails (fun values k hk => ?_) r j' hrun
    have hplain := h.of_reported (hvalues.reported_of_eq hk)
    refine (isQuiet_of_eq (context_plain hplain) (.refl k)).bind_fails fun fields k' hk' => ?_
    rw [context_plain hplain] at hk'
    obtain ⟨-, rfl⟩ := Prod.mk.inj hk'
    exact (quiet_withError hplain arguments values fields).bind_fails fun _ k' _ => hemit _ _ _ k'
  | result v =>
    have hresult : point.plan.logResult = true := hasked
    rw [run, logResult, if_pos hresult, Action.bind_of_ok henabled, if_pos rfl] at hrun
    have hconvert := quiet_convert h v
    refine hconvert.bind_fails (fun shown k hk => ?_) r j' hrun
    have hplain := h.of_reported (hconvert.reported_of_eq hk)
    exact (isQuiet_of_eq (context_plain hplain) (.refl k)).bind_fails fun fields k' _ =>
      hemit _ _ _ k'
  | failure error =>
    rw [run, logFailure, Action.bind_of_ok henabled, if_pos rfl,
      Action.bind_of_ok (context_plain h),
      Action.bind_of_ok (Logger.refuse_of_none rfl j)] at hrun
    exact hemit _ _ _ j r j' hrun

/-- What an operation writes can be written: all that it shows can be shown, and has a text. -/
def IsWritable (naming : Naming) (point : LogPoint) (j : Journal) (op : Operation) : Prop :=
  op.CanShow point (point.shownAt naming j) ∧
    ∃ text, op.text naming point (point.shownAt naming j) = .ok text

/-- A failure can always be written. -/
theorem isWritable_failure (naming : Naming) (point : LogPoint) (j : Journal) (error : Value) :
    (failure error).IsWritable naming point j :=
  ⟨trivial, _, rfl⟩

/-- **A result can be written** if its value can. -/
theorem isWritable_result_iff (h : point.IsPlain naming j) {v : Value}
    (hresult : point.plan.logResult = true) :
    (result v).IsWritable naming point j ↔ (point.registryAt j).Writes naming v := by
  rw [← h.hasText_iff]
  constructor
  · rintro ⟨⟨-, hvalue⟩, text, htext⟩
    rcases hshown : (point.shownAt naming j v).value.text naming with f | cs
    · rw [Operation.text, hshown] at htext
      cases htext
    · exact ⟨_, cs, hvalue, hshown⟩
  · rintro ⟨w, text, hw, htext⟩
    have hvalue : (point.shownAt naming j v).value = w := by rw [Shown.value, hw]
    refine ⟨⟨hresult, Shown.isValue_of_ok hw⟩, "return " ++ String.ofList text, ?_⟩
    rw [Operation.text, hvalue, htext]
    rfl

/-- **A call can be written** if the values that its plan looks at can, and if the message has no
slots to spare, unless there are no values. For a plan that was made for a callable, and a call of
it with a value for each parameter. -/
theorem isWritable_call_iff (h : point.IsPlain naming j) {metadata : Metadata}
    (hplan : metadata.plan = .ok point.plan)
    (hnumbered : Parameter.Numbered metadata.parameters)
    (hlen : arguments.length = metadata.parameters.length) :
    (call arguments).IsWritable naming point j ↔
      (∀ v, point.plan.Looks arguments v → (point.registryAt j).Writes naming v) ∧
        (metadata.spareSlots = 0 ∨
          point.plan.values (point.shownAt naming j) arguments = []) := by
  have hcount := Metadata.slotCount_of_plan hplan hnumbered hlen (point.shownAt naming j)
  have hslots : (point.plan.values (point.shownAt naming j) arguments).length ≤
      Format.slotCount point.plan.message.toList := by omega
  refine Iff.trans (exists_text_iff (Metadata.plan_inRange hplan hnumbered hlen) hslots)
    (and_congr ?_ ?_)
  · exact forall₂_congr fun v _ => h.hasText_iff
  · rw [hcount, or_comm]
    refine or_congr_left ?_
    omega

/-- **An operation that is writable** does not raise. Its fields are the exception at most, which
need not be written as a document. -/
theorem run_of_isWritable (h : point.IsPlain naming j) (hlogged : op.isLogged point l = true)
    (hop : op.IsWritable naming point j) :
    ∃ j', op.run naming point (.logger l) j = (.ok (), j') := by
  obtain ⟨hshow, text, htext⟩ := hop
  have hlevel := (Bool.and_eq_true_iff.mp hlogged).2
  have hcontext : (point.gathered naming j).outcome = .ok [] := by rw [h.gathered]
  have hclash (names : List String) : Logger.clash? names [] = none := by
    rw [Logger.clash?_eq_none_iff]
    simp
  have hfields : ∀ field ∈ op.fields point [], Field.IsWritable naming field := by
    intro field hfield
    rw [fields] at hfield
    rcases hexception : op.exception? point with _ | error
    · rw [hexception] at hfield
      cases hfield
    · rw [hexception] at hfield
      obtain rfl := List.mem_singleton.mp hfield
      exact .inl rfl
  rw [← eventText_eq] at htext
  obtain ⟨record, hrecord⟩ := Logger.exists_written htext h.bound hfields
    (by rw [clash?_fields point (by decide), hclash]) l (Logger.shownLevel point.plan.level)
  rw [run_eq hlevel hshow hcontext, hclash]
  dsimp only
  rw [Sink.emit_logger hlevel (op.free_of_taken (hclash _))]
  have hbound : (op.readyAt naming point (.logger l) j).bound = j.bound := rfl
  rw [hbound, hrecord]
  exact ⟨_, rfl⟩

/-- **An operation that is not writable** raises a fault, and writes nothing but reports. -/
theorem run_of_not_isWritable (h : point.IsPlain naming j)
    (hlogged : op.isLogged point l = true) (hop : ¬ op.IsWritable naming point j) :
    ∃ f j', op.run naming point (.logger l) j = (.error (.fault f), j') ∧ j.Reported j' := by
  rcases hrun : op.run naming point (.logger l) j with ⟨r | _, j'⟩
  · obtain ⟨⟨f, rfl⟩, hreported⟩ := failsQuietly_run h hlogged r j' hrun
    exact ⟨f, j', rfl, hreported⟩
  · -- had it succeeded, its record would show that it is writable
    obtain ⟨hshow, -⟩ := canShow_of_ok hlogged hrun
    obtain ⟨-, record, -, hrecord, -⟩ := wrote_of_ok hlogged hrun
    obtain ⟨text, htext, -⟩ := hrecord.event
    exact absurd ⟨hshow, text, htext⟩ hop

end Operation

end LogPoint

end CallLog
