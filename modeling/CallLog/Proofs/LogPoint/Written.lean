import CallLog.Proofs.LogPoint.Arguments
import CallLog.Proofs.LogPoint.Operation
import CallLog.Proofs.Records

/-!
# What operations write

An operation on a logger that does not raise has written one record, if its plan asks for it and
the logger takes the level of the plan, and nothing else but reports on what it showed and collected
(`wrote_of_ok`). Otherwise it has done nothing at all (`run_of_not_logged`): what the converters and
the providers are does not matter then.
-/

namespace CallLog

namespace LogPoint

variable {naming : Naming} {point : LogPoint} {arguments : List Value}

/-! ## Parts that did not raise

What is known here is that an operation ended without raising. So each of its parts did, and what
each part has shown can be shown. This is the way back from `Run`, where it is supposed. -/

theorem isValue_of_mapM_render {rules : List Rule} {values : List Value} {j j' : Journal}
    (h : rules.mapM (point.render naming arguments) j = (.ok values, j')) :
    ∀ rule ∈ rules, (rule.shown (point.shownAt naming j) arguments).IsValue := by
  induction rules generalizing values j j' with
  | nil => simp
  | cons rule rules ih =>
    rw [List.mapM_cons] at h
    obtain ⟨v, k, hrule, h⟩ := Action.bind_eq_ok h
    obtain ⟨vs, k', hrules, -⟩ := Action.bind_eq_ok h
    rw [render_run] at hrule
    obtain ⟨hvalue, rfl⟩ := Prod.mk.inj hrule
    refine List.forall_mem_cons.mpr ⟨Shown.isValue_of_ok hvalue, ?_⟩
    simpa using ih hrules

theorem item?_of_argument {v : Value} {i : Int} {j j' : Journal}
    (h : argument arguments i j = (.ok v, j')) : item? arguments i = some v ∧ j' = j := by
  rw [argument] at h
  rcases hitem : item? arguments i with _ | w
  · rw [hitem] at h
    cases h
  · rw [hitem] at h
    cases h
    exact ⟨rfl, rfl⟩

theorem isValue_of_insertError {error : Value} {positions : List Int} {values shown : List Value}
    {j j' : Journal}
    (h : point.insertError naming error positions values j = (.ok shown, j'))
    (hpositions : positions ≠ []) : (point.shownAt naming j error).IsValue := by
  rcases positions with _ | ⟨i, positions⟩
  · exact absurd rfl hpositions
  · rw [insertError] at h
    obtain ⟨v, k, hconvert, -⟩ := Action.bind_eq_ok h
    rw [convert_run] at hconvert
    exact Shown.isValue_of_ok (Prod.mk.inj hconvert).1

/-- The part of `Plan.Shows` that is about the error parameter. -/
theorem error_of_withError {values : List Value} {fields : Context.Fields}
    {completed : List Value × Context.Fields} {j j' : Journal}
    (h : point.withError naming arguments values fields j = (.ok completed, j')) :
    ∀ parameter, point.plan.errorParameter = some parameter →
      ∃ error, item? arguments parameter.index = some error ∧
        (parameter.positions ≠ [] → (point.shownAt naming j error).IsValue) := by
  intro parameter hparameter
  simp only [withError, hparameter] at h
  obtain ⟨error, k, hargument, hrest⟩ := Action.bind_eq_ok h
  obtain ⟨hitem, rfl⟩ := item?_of_argument hargument
  obtain ⟨shown, k', hinsert, -⟩ := Action.bind_eq_ok hrest
  exact ⟨error, hitem, isValue_of_insertError hinsert⟩

theorem outcome_of_context {context : Context.Fields} {j j' : Journal}
    (h : point.context naming j = (.ok context, j')) :
    (point.gathered naming j).outcome = .ok context := by
  rw [context_run] at h
  exact (Prod.mk.inj h).1

namespace Operation

variable {op : Operation} {l : Logger} {j j' : Journal}

/-! ## Operations that are not logged

Whether an operation is logged is decided before anything of it is looked at: by the plan, for
results, and by the level. -/

variable (point) in
/-- Whether the plan asks for an operation. -/
def isAsked : Operation → Bool
  | call _ | failure _ => true
  | result _ => point.plan.logResult

variable (point l) in
/-- Whether an operation is logged: the plan asks for it, and the logger takes its level. -/
def isLogged (op : Operation) : Bool :=
  op.isAsked point && (Sink.logger l).takes point.plan.level.number

/-- **An operation that is not logged** does nothing. -/
theorem run_of_not_logged (h : op.isLogged point l = false) (naming : Naming) (j : Journal) :
    op.run naming point (.logger l) j = (.ok (), j) := by
  rw [isLogged, Bool.and_eq_false_iff] at h
  rcases h with hasked | hlevel
  · cases op with
    | call arguments => cases hasked
    | result v =>
      have hresult : point.plan.logResult = false := hasked
      rw [run, logResult, hresult]
      rfl
    | failure error => cases hasked
  · obtain ⟨hcall, hresult, hfailure⟩ := @off_run naming point _ hlevel j
    cases op with
    | call arguments => exact hcall arguments
    | result v =>
      by_cases hasked : point.plan.logResult = true
      · exact hresult v hasked
      · rw [run, logResult, if_neg hasked]
        rfl
    | failure error => exact hfailure error

/-! ## Operations that are logged

An operation that is logged shows its values and collects the context, and both succeeded if it did
not raise. So what it does is known, and the record is the only thing that it can have written
besides reports. -/

variable (naming point) in
/-- The text that an operation is logged with. -/
def text (look : Value → Shown) : Operation → Except Fault String
  | call arguments =>
    Logger.eventText naming (point.callEvent (point.plan.values look arguments))
      (point.plan.values look arguments)
  | result v => (fun cs => "return " ++ String.ofList cs) <$> (look v).value.text naming
  | failure error => .ok ("failed with " ++ naming.kindOf error)

/-- A format that ends with its only hole, like that of a result or a failure. -/
theorem eventText_hole {event before : String}
    (hevent : event.toList = Format.ofMessage (before.toList ++ ['\x7b', '\x7d']))
    (hbefore : '\x7b' ∉ before.toList) (naming : Naming) (v : Value) :
    Logger.eventText naming event [v] =
      (fun cs => before ++ String.ofList cs) <$> v.text naming := by
  have hcount : [v].length = Format.slotCount (before.toList ++ ['\x7b', '\x7d']) := by
    rw [Format.slotCount_append_of_not_mem hbefore]
    rfl
  simp only [Logger.eventText, hevent, Format.fill_ofMessage naming hcount]
  rcases htext : v.text naming with f | cs
  · have htexts : [v].mapM (Value.text naming) = .error f := by
      rw [List.mapM_cons, htext]
      rfl
    rw [htexts]
    rfl
  · have htexts : [v].mapM (Value.text naming) = .ok [cs] := by
      rw [List.mapM_cons, htext]
      rfl
    have hfilled :
        Format.substitute (before.toList ++ ['\x7b', '\x7d']) [cs] = before.toList ++ cs := by
      rw [Format.substitute_append (by simp) (Format.slotCount_of_not_mem hbefore)]
      simp [Format.substitute]
    rw [htexts]
    change Except.ok (String.ofList (Format.substitute _ [cs])) = Except.ok _
    rw [hfilled, String.ofList_append, String.ofList_toList]

theorem eventText_eq (look : Value → Shown) (op : Operation) :
    Logger.eventText naming (op.event point look) (op.args naming point look) =
      op.text naming point look := by
  cases op with
  | call arguments => rfl
  | result v =>
    have hhole : Logger.eventText naming "return %s" [(look v).value] =
        (fun cs => "return " ++ String.ofList cs) <$> (look v).value.text naming :=
      eventText_hole (by decide) (by decide) naming _
    exact hhole
  | failure error =>
    have hhole : Logger.eventText naming "failed with %s" [.str (naming.kindOf error)] =
        (fun cs => "failed with " ++ String.ofList cs) <$>
          (Value.str (naming.kindOf error)).text naming :=
      eventText_hole (by decide) (by decide) naming _
    refine hhole.trans ?_
    rw [Value.text, text]
    change Except.ok ("failed with " ++ String.ofList _) = _
    rw [String.ofList_toList]

/-- What is shown and collected for an operation that did not raise. -/
theorem canShow_of_ok (hlogged : op.isLogged point l = true)
    (h : op.run naming point (.logger l) j = (.ok (), j')) :
    op.CanShow point (point.shownAt naming j) ∧
      ∃ context, (point.gathered naming j).outcome = .ok context := by
  obtain ⟨hasked, hlevel⟩ := Bool.and_eq_true_iff.mp hlogged
  have henabled : point.isEnabled (.logger l) j = (.ok true, j) := by
    rw [isEnabled_run, hlevel]
    rfl
  cases op with
  | call arguments =>
    rw [run, logCall, Action.bind_of_ok henabled, if_pos rfl] at h
    obtain ⟨values, k, hvalues, h⟩ := Action.bind_eq_ok h
    obtain ⟨context, k', hcontext, h⟩ := Action.bind_eq_ok h
    obtain ⟨completed, k'', herror, -⟩ := Action.bind_eq_ok h
    -- the reports on the values do not change what is collected and shown after them
    have hrules := isValue_of_mapM_render hvalues
    rw [mapM_render_run hrules] at hvalues
    obtain ⟨-, rfl⟩ := Prod.mk.inj hvalues
    have hgathered := outcome_of_context hcontext
    rw [gathered_logged] at hgathered
    rw [context_run] at hcontext
    obtain ⟨-, rfl⟩ := Prod.mk.inj hcontext
    refine ⟨⟨hrules, ?_⟩, context, hgathered⟩
    simpa using error_of_withError herror
  | result v =>
    have hresult : point.plan.logResult = true := hasked
    rw [run, logResult, if_pos hresult, Action.bind_of_ok henabled, if_pos rfl] at h
    obtain ⟨shown, k, hconvert, h⟩ := Action.bind_eq_ok h
    obtain ⟨context, k', hcontext, -⟩ := Action.bind_eq_ok h
    rw [convert_run] at hconvert
    obtain ⟨hvalue, rfl⟩ := Prod.mk.inj hconvert
    have hgathered := outcome_of_context hcontext
    rw [gathered_logged] at hgathered
    exact ⟨⟨hasked, Shown.isValue_of_ok hvalue⟩, context, hgathered⟩
  | failure error =>
    rw [run, logFailure, Action.bind_of_ok henabled, if_pos rfl] at h
    obtain ⟨context, k, hcontext, -⟩ := Action.bind_eq_ok h
    exact ⟨trivial, context, outcome_of_context hcontext⟩

theorem isReport_of_mem_reports {record : Record}
    (h : record ∈ op.reports point (point.shownAt naming j) (point.gathered naming j).reports) :
    Logger.IsReport record := by
  have hcontext (hmem : record ∈ (point.gathered naming j).reports) : Logger.IsReport record :=
    Context.isReport_of_mem_gather hmem
  have hshown {v : Value} (hmem : record ∈ (point.shownAt naming j v).reports) :
      Logger.IsReport record := Converters.isReport_of_mem_reports hmem
  cases op with
  | call arguments =>
    rcases List.mem_append.mp h with h | herror
    · rcases List.mem_append.mp h with hrules | hmem
      · obtain ⟨rule, -, hrule⟩ := List.mem_flatMap.mp hrules
        cases rule with
        | static text => cases hrule
        | live i name hint =>
          rw [Rule.shown] at hrule
          rcases hitem : item? arguments i with _ | v
          · rw [hitem] at hrule
            cases hrule
          · rw [hitem] at hrule
            exact hshown hrule
      · exact hcontext hmem
    · rw [Plan.errorReports] at herror
      rcases herr : point.plan.error? arguments with _ | error
      · rw [herr] at herror
        cases herror
      · rw [herr] at herror
        obtain ⟨_, -, hmem⟩ := List.mem_flatMap.mp herror
        exact hshown hmem
  | result v =>
    rcases List.mem_append.mp h with hmem | hmem
    · exact hshown hmem
    · exact hcontext hmem
  | failure error => exact hcontext h

/-- The record of an operation. -/
structure IsRecord (naming : Naming) (point : LogPoint) (l : Logger) (j : Journal)
    (op : Operation) (record : Record) : Prop where
  /-- what is logged can be shown, and is asked for -/
  shown : op.CanShow point (point.shownAt naming j)
  /-- it is the record of the text of the operation with the collected fields -/
  made : ∃ text context, op.text naming point (point.shownAt naming j) = .ok text ∧
    (point.gathered naming j).outcome = .ok context ∧
    Logger.record naming l (Logger.shownLevel point.plan.level) text j.bound
      (op.fields point context) = .ok record
  event : ∃ text, op.text naming point (point.shownAt naming j) = .ok text ∧
    record.lookup "event" = some (.str text)
  level : record.lookup "level" = some (.str (Logger.shownLevel point.plan.level))

/-- An operation has written its record, after reports on what it showed and collected. -/
def Wrote (naming : Naming) (point : LogPoint) (l : Logger) (op : Operation) (j j' : Journal) :
    Prop :=
  ∃ reports record, (∀ r ∈ reports, Logger.IsReport r) ∧ op.IsRecord naming point l j record ∧
    j' = (j.logged (reports ++ [record])).counted (point.gathered naming j).counters

/-- **An operation that is logged writes one record**, if it does not raise. Its reports come before
the record, and the counters are those after the context was collected once. -/
theorem wrote_of_ok (hlogged : op.isLogged point l = true)
    (h : op.run naming point (.logger l) j = (.ok (), j')) : op.Wrote naming point l j j' := by
  obtain ⟨hshow, context, hcontext⟩ := canShow_of_ok hlogged h
  have hlevel : (Sink.logger l).takes point.plan.level.number = true :=
    (Bool.and_eq_true_iff.mp hlogged).2
  rw [run_eq hlevel hshow hcontext] at h
  rcases hclash : Logger.clash? op.taken context with _ | name
  -- with a key that is taken the operation would have raised
  · simp only [hclash] at h
    rw [Sink.emit_logger hlevel (op.free_of_taken hclash)] at h
    have hbound : (op.readyAt naming point (.logger l) j).bound = j.bound := rfl
    rw [hbound] at h
    rcases hwritten : Logger.written naming l (Logger.shownLevel point.plan.level)
        (op.event point (point.shownAt naming j)) (op.args naming point (point.shownAt naming j))
        j.bound (op.fields point context) with f | record
    · rw [hwritten] at h
      cases h
    · rw [hwritten] at h
      obtain ⟨-, rfl⟩ := Prod.mk.inj h
      obtain ⟨-, text, htext, hrecord⟩ := Logger.of_written hwritten
      rw [eventText_eq] at htext
      obtain ⟨hevent, hname⟩ := Logger.lookup_record hrecord
      refine ⟨op.reports point (point.shownAt naming j) (point.gathered naming j).reports, record,
        fun r hr => isReport_of_mem_reports hr,
        ⟨hshow, ⟨text, context, htext, hcontext, hrecord⟩, ⟨text, htext, hevent⟩, hname⟩, ?_⟩
      rw [← Journal.logged_logged]
      rfl
  · rw [hclash] at h
    cases h

end Operation

end LogPoint

end CallLog
