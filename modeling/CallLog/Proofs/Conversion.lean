import CallLog.Conversion
import CallLog.Proofs.Logger

/-!
# What conversions show

`Converters.convert` acts on the journal, but all that it reads there are the bound values, and all
that it does there is to report on a converter that failed. `Converters.shown` tells this without
the journal: the outcome, and the reports.

Where the converter of a value succeeds, or there is none, nothing is reported
(`shown_of_converted`).
-/

namespace CallLog

/-- What a message shows for a value, and what is reported on the way. -/
structure Shown where
  outcome : Except Raised Value
  reports : List Record := []

namespace Shown

/-- The value that is shown, where one is. -/
def value (s : Shown) : Value :=
  match s.outcome with
  | .ok w => w
  | .error _ => .none

/-- A value is shown. -/
def IsValue (s : Shown) : Prop :=
  s.outcome = .ok s.value

theorem isValue_of_ok {s : Shown} {w : Value} (h : s.outcome = .ok w) : s.IsValue := by
  rw [IsValue, value, h]

end Shown

namespace Converters

variable (naming : Naming) (bound : List (String × Value)) (registry : Converters)

/-- The report on a converter that failed. -/
def report (v : Value) (r : Raised) : Except Fault Record := do
  let message ← r.text naming
  Logger.reported naming reporter "warning" "converter_failed" bound
    (failureFields naming v message ++ Logger.handled bound r)

/-- What is shown for a value whose converter failed. -/
def recovered (v : Value) (r : Raised) : Shown :=
  match report naming bound v r with
  | .error f => ⟨.error (.fault f), []⟩
  | .ok record =>
    ⟨Action.outcome ((fun cs => .str (String.ofList cs)) <$> v.display naming), [record]⟩

/-- What is shown for a value: `None` is never converted, a value without a converter is
shown as it is, and where the converter fails something else is shown if the failure is one
that handlers catch. -/
def shown (v : Value) : Shown :=
  if v.isNone then ⟨.ok .none, []⟩
  else
    match registry.find v.line with
    | none => ⟨.ok v, []⟩
    | some converter =>
      match registry.meaning naming converter v with
      | .ok w => ⟨.ok w, []⟩
      | .error r => if r.isCaught then recovered naming bound v r else ⟨.error r, []⟩

/-- The value that the converters make of a value. -/
def converted (v : Value) : Except Raised Value :=
  if v.isNone then .ok .none
  else
    match registry.find v.line with
    | none => .ok v
    | some converter => registry.meaning naming converter v

variable {naming bound registry}

/-- **What is done about a converter that failed**: its failure is reported, and only then is the
value displayed. So a value that refuses to be displayed is reported on before that is raised. -/
theorem recover_run (v : Value) (r : Raised) (j : Journal) :
    recover naming v r j =
      ((recovered naming j.bound v r).outcome,
        j.logged (recovered naming j.bound v r).reports) := by
  rw [recover, recovered, report]
  rcases r.text naming with f | message
  · exact (Action.bind_of_error rfl _).trans (by simp [bind, Except.bind])
  · rw [Action.bind_of_ok (Action.ofExcept_run (.ok message) j)]
    have hfields : Logger.clash? ["self", "event"] (failureFields naming v message) = none := by
      rw [Logger.clash?_eq_none_iff]
      simp [failureFields]
    have hmethod : Logger.method? "warning" = some (.writes 30 "warning") := rfl
    have hreport := Logger.reportHandled_run naming reporter hmethod (by decide)
      "converter_failed" hfields r j
    rcases hreported : Logger.reported naming reporter "warning" "converter_failed" j.bound
        (failureFields naming v message ++ Logger.handled j.bound r) with f | record
    · rw [hreported] at hreport
      rw [Action.bind_of_error hreport]
      simp [bind, Except.bind, hreported]
    · rw [hreported] at hreport
      rw [Action.bind_of_ok hreport]
      simp only [bind, Except.bind, hreported]
      rcases v.display naming with f | cs <;> rfl

/-- **What a conversion does**: it shows the value, and it writes the reports. What is shown depends
on the journal only through what is bound around, which no report changes; so several values can be
converted one after the other as if each were the first. -/
theorem convert_run (v : Value) (j : Journal) :
    registry.convert naming v j =
      ((registry.shown naming j.bound v).outcome,
        j.logged (registry.shown naming j.bound v).reports) := by
  rw [convert, Registry.convert, shown]
  by_cases hnone : v.isNone = true
  · rw [if_pos hnone, if_pos hnone, Journal.logged_nil]
    rfl
  · rw [if_neg hnone, if_neg hnone]
    rcases registry.find v.line with _ | converter
    · exact congrArg (Prod.mk _) j.logged_nil.symm
    · simp only [Registry.applied]
      rcases registry.meaning naming converter v with r | w
      · by_cases hcaught : r.isCaught = true
        · simp only [if_pos hcaught]
          exact recover_run v r j
        · simp only [if_neg hcaught, Journal.logged_nil]
          rfl
      · exact congrArg (Prod.mk _) j.logged_nil.symm

/-- What conversions write are reports. They can be told apart from the records of calls, whatever
was converted. -/
theorem isReport_of_mem_reports {v : Value} {record : Record}
    (h : record ∈ (registry.shown naming bound v).reports) : Logger.IsReport record := by
  rw [shown] at h
  by_cases hnone : v.isNone = true
  · rw [if_pos hnone] at h
    cases h
  · rw [if_neg hnone] at h
    rcases hfind : registry.find v.line with _ | converter
    · rw [hfind] at h
      cases h
    · rcases hmeaning : registry.meaning naming converter v with r | w
      · simp only [hfind, hmeaning] at h
        by_cases hcaught : r.isCaught = true
        · rw [if_pos hcaught, recovered] at h
          rcases hreport : report naming bound v r with f | written
          · rw [hreport] at h
            cases h
          · rw [hreport] at h
            obtain rfl := List.mem_singleton.mp h
            obtain ⟨message, -, hwritten⟩ := Action.except_bind_eq_ok hreport
            exact ⟨_, _, _, _, _, _, hwritten⟩
        · rw [if_neg hcaught] at h
          cases h
      · simp only [hfind, hmeaning] at h
        cases h

/-- A converter that succeeds is not reported on. Then what is bound around does not matter. -/
theorem shown_of_converted {v w : Value} (h : registry.converted naming v = .ok w) :
    registry.shown naming bound v = ⟨.ok w, []⟩ := by
  rw [converted] at h
  rw [shown]
  by_cases hnone : v.isNone = true
  · rw [if_pos hnone] at h ⊢
    rw [Except.ok.inj h]
  · rw [if_neg hnone] at h ⊢
    rcases hfind : registry.find v.line with _ | converter
    · rw [hfind] at h
      rw [Except.ok.inj h]
    · rw [hfind] at h
      simp only at h ⊢
      rw [h]

end Converters

end CallLog
