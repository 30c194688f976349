import CallLog.Proofs.Conversion
import CallLog.Proofs.Emission
import Mathlib.Data.List.Forall2

/-!
# Collaborators that fail

Converters and context variables are other people's code. Where one raises something that handlers
catch, a warning is written, and the work goes on without its result: a value is shown by its
display, a context variable is left out. But writing the warning takes the text of what was raised,
and the display is that of the value; both are other people's code again, and nothing is caught
here.

* `convert_recovery`: what a conversion does whose converter failed.
* `gather_collection`: what gathering does where some of the context variables failed.

Both are put together in `collaborators_reported`.
-/

namespace CallLog

/-! ## What keeps a record from being written

A report from a handler shows texts only, so it is written unless something stands in its way that
is bound around. This section says which values do: those that are in the record, and these are the
ones that the report does not hide, that do not stand for something else, and that are not replaced
by what a bound value asks for. -/

namespace Logger

variable {naming : Naming}

theorem lookup_ownFields_isNone_iff {logger : Logger} {given : List (String × Value)}
    {name : String} :
    ((logger.ownFields given).lookup name).isNone = true ↔
      name ∉ "logger" :: given.map Prod.fst := by
  rw [Option.isNone_iff_eq_none, ownFields, Context.lookup_overlay, Option.or_eq_none_iff,
    Document.lookup_eq_none_iff, Document.lookup_eq_none_iff]
  simp [and_comm]

/-- **Only what is bound around an event can keep it from being recorded**, if all that is given
with it can be shown; and only what the event does not hide, and the record takes. -/
theorem exists_record_iff_bound {given : List (String × Value)}
    (hgiven : ∀ field ∈ given, Field.IsWritable naming field) (logger : Logger)
    (level event : String) (bound : List (String × Value)) :
    (∃ r, record naming logger level event bound given = .ok r) ↔
      ∀ field ∈ bound, field.1 ∉ "logger" :: given.map Prod.fst →
        isTaken naming (logger.gather bound given) field.1 = true →
          ∃ d, Document.ofValue naming field.2 = .ok d := by
  rw [exists_record_iff]
  constructor
  · intro h field hfield hname
    refine h field ?_
    rw [gather_eq]
    exact List.mem_append_right _
      (List.mem_filter.mpr ⟨hfield, lookup_ownFields_isNone_iff.mpr hname⟩)
  · intro h field hfield htaken
    rw [gather_eq] at hfield
    rcases List.mem_append.mp hfield with hfield | hfield
    · have hnone : ∀ field ∈ ([] : List (String × Value)), Field.IsWritable naming field := nofun
      have hown : field ∈ logger.gather [] given := by
        rw [gather_eq]
        exact List.mem_append_left _ hfield
      rcases forall_mem_gather (Field.isWritable_str naming _ _) hnone hgiven field hown with
        hreserved | hdocument
      · cases hreserved.symm.trans (isTaken_iff.mp htaken).1
      · exact hdocument
    · obtain ⟨hmem, hfree⟩ := List.mem_filter.mp hfield
      exact h field hmem (lookup_ownFields_isNone_iff.mp hfree) htaken

/-- A name under which a report from a handler shows something else than what is bound: the failure
that is handled, or the stack. -/
def Replaced (bound : List (String × Value)) (name : String) : Prop :=
  name = "exception" ∧ asksFor "exc_info" bound = true ∨
    name = "stack" ∧ asksFor "stack_info" bound = true

/-- What a handler adds stands under one name. -/
theorem not_mem_keys_handled {name : String} (hname : name ≠ "exc_info")
    (bound : List (String × Value)) (failure : Raised) :
    name ∉ (handled bound failure).map Prod.fst := by
  intro hmem
  obtain ⟨field, hfield, rfl⟩ := List.mem_map.mp hmem
  rw [mem_handled hfield] at hname
  exact hname rfl

theorem lookup_handled {name : String} (hname : name ≠ "exc_info")
    (bound : List (String × Value)) (failure : Raised) :
    (handled bound failure).reverse.lookup name = none := by
  rw [Document.lookup_eq_none_iff, List.map_reverse, List.mem_reverse]
  exact not_mem_keys_handled hname bound failure

theorem exceptionOf?_toValue (failure : Raised) :
    exceptionOf? failure.toValue = some failure := by
  cases failure <;> rfl

/-- What holds an exception holds as a condition. -/
theorem isTrue_of_exceptionOf? {v : Value} {failure : Raised} (h : exceptionOf? v = some failure) :
    v.isTrue = true := by
  unfold exceptionOf? at h
  split at h
  · rfl
  · unfold Raised.ofValue? at h
    split at h
    · rfl
    · rfl
    · cases h

section

variable {given : List (String × Value)} (hgiven : clash? ["exc_info", "stack_info"] given = none)
include hgiven

theorem lookup_reverse_eq_none {name : String} (hname : name ∈ ["exc_info", "stack_info"]) :
    given.reverse.lookup name = none := by
  rw [Document.lookup_eq_none_iff, List.map_reverse, List.mem_reverse]
  intro hmem
  obtain ⟨field, hfield, rfl⟩ := List.mem_map.mp hmem
  exact clash?_eq_none_iff.mp hgiven field hfield hname

/-- The failure is shown exactly if something that is bound asks for it. If that is an exception
itself it is shown, and if it only holds as a condition the failure is shown in its place; either
way there is one. -/
theorem isSome_exceptionOf?_handled (logger : Logger) (bound : List (String × Value))
    (failure : Raised) :
    (((logger.gather bound (given ++ handled bound failure)).lookup "exc_info").bind
      exceptionOf?).isSome = asksFor "exc_info" bound := by
  have hnone : given.reverse.lookup "exc_info" = none := lookup_reverse_eq_none hgiven (by decide)
  rw [lookup_gather, List.reverse_append, List.lookup_append, hnone, Option.or_none, handled]
  split
  · rename_i hasks
    rw [Bool.and_eq_true] at hasks
    rw [hasks.1]
    simp [exceptionOf?_toValue]
  · rename_i hasks
    rw [Bool.and_eq_true, not_and, Bool.not_eq_true, Option.isNone_eq_false_iff] at hasks
    rw [Bool.eq_iff_iff]
    constructor
    · intro hsome
      obtain ⟨raised, hraised⟩ := Option.isSome_iff_exists.mp hsome
      obtain ⟨v, hv, hraised⟩ := Option.bind_eq_some_iff.mp hraised
      have hv : bound.lookup "exc_info" = some v := by simpa using hv
      rw [asksFor, hv]
      exact isTrue_of_exceptionOf? hraised
    · intro htrue
      simpa using hasks htrue

/-- **What a report from a handler takes** from what is bound around it. Whether it can be
written can therefore be told from what is bound alone, and that is the same for all reports
from handlers. -/
theorem isTaken_handled_iff (logger : Logger) (bound : List (String × Value)) (failure : Raised)
    {name : String} :
    isTaken naming (logger.gather bound (given ++ handled bound failure)) name = true ↔
      isReserved name = false ∧ ¬ Replaced bound name := by
  have hstack : (logger.gather bound (given ++ handled bound failure)).lookup "stack_info" =
      bound.lookup "stack_info" := by
    have hnone : given.reverse.lookup "stack_info" = none :=
      lookup_reverse_eq_none hgiven (by decide)
    rw [lookup_gather, List.reverse_append, List.lookup_append, lookup_handled (by decide), hnone]
    rfl
  have hasks : asksFor "stack_info" (logger.gather bound (given ++ handled bound failure)) =
      asksFor "stack_info" bound := by
    rw [asksFor, hstack]
    rfl
  rw [isTaken_iff, isSome_exceptionOf?_handled hgiven, hasks, Replaced, not_or]

end

end Logger

/-! ## Warnings

The two warnings are written in the same way and differ in their name, their event and their fields.
So one lemma tells when a warning is written, and one what is in its record. -/

/-- A warning of the library: its fields are texts, under names of their own. -/
structure Emission.IsWarning (e : Emission) : Prop where
  method : e.method = "warning"
  args : e.args = []
  given : ∀ field ∈ e.given, ∃ s, field.2 = .str s
  names : Logger.clash? ["method_name", "exc_info", "stack_info"] e.given = none

namespace Emission

variable {naming : Naming} {bound : Context.Fields} {e : Emission}

/-- What is bound around a warning does not keep it from being written: it can be recorded, as far
as the warning does not hide it, and the failure and the stack do not take its place. -/
def IsFree (naming : Naming) (bound : Context.Fields) (e : Emission) : Prop :=
  ∀ field ∈ bound, field.1 ∉ "logger" :: e.given.map Prod.fst →
    Field.IsWritable naming field ∨ Logger.Replaced bound field.1

/-- The record of a warning about a failure, if it can be written. -/
def warned (naming : Naming) (bound : Context.Fields) (failure : Raised) (e : Emission) :
    Except Fault Record :=
  Logger.written naming ⟨e.name, 0⟩ "warning" e.event [] bound
    (e.given ++ Logger.handled bound failure)

/-- A record of a warning, with some values bound around it. -/
def IsWarned (naming : Naming) (bound : Context.Fields) (e : Emission) (r : Record) : Prop :=
  e.IsRecord naming (fun key => bound.lookup key) "warning" r

/-- A warning in a handler. -/
def handling (bound : Context.Fields) (failure : Raised) (e : Emission) : Emission :=
  { e with given := e.given ++ Logger.handled bound failure }

theorem fields_of_warning (h : e.method = "warning") : e.fields = e.given := by
  simp only [fields, h]
  rfl

/-- What a handler adds to a warning changes nothing in its record but the exception. -/
theorem isWarned_of_handling (h : e.IsWarning) {failure : Raised} {r : Record}
    (hr : (e.handling bound failure).IsWarned naming bound r) : e.IsWarned naming bound r := by
  have hvalue {key : String} (hkey : key ≠ "exc_info") :
      (e.handling bound failure).value? (fun key => bound.lookup key) key =
        e.value? (fun key => bound.lookup key) key := by
    rw [value?, value?, handling, List.reverse_append, List.lookup_append,
      Logger.lookup_handled hkey, Option.none_or]
  have hstack : (e.handling bound failure).asksForStack (fun key => bound.lookup key) =
      e.asksForStack fun key => bound.lookup key := by
    rw [asksForStack, asksForStack, hvalue (by decide)]
  refine ⟨hr.level, hr.event, fun key hkey hasks => ?_, fun hasks => hr.stack (hstack.trans hasks),
    fun raised hraised => hr.exception raised ?_⟩
  · rw [← hvalue (by rintro rfl; exact hkey (by decide))]
    exact hr.field key hkey fun heq => hstack.trans (hasks heq)
  · -- an exception that is bound is shown as it is: then a handler adds nothing
    rw [exception?, fields_of_warning h.method] at hraised
    have hnone : e.given.reverse.lookup "exc_info" = none :=
      Logger.lookup_reverse_eq_none (Logger.clash?_of_subset (by simp) h.names) (by decide)
    rw [hnone, Option.none_or] at hraised
    have hhandled : Logger.handled bound failure = [] := by
      rw [Logger.handled, hraised]
      simp
    have hsame : e.handling bound failure = e := by
      rw [handling, hhandled, List.append_nil]
    rw [hsame, exception?, fields_of_warning h.method, hnone, Option.none_or, hraised]

/-- **When a warning can be written.** Its own fields are texts, and the failure in it is shown
without a document, so only what is bound around it can be in the way. -/
theorem exists_warned_iff (h : e.IsWarning) (naming : Naming) (bound : Context.Fields)
    (failure : Raised) :
    (∃ r, e.warned naming bound failure = .ok r) ↔ e.IsFree naming bound := by
  have hgiven : ∀ field ∈ e.given ++ Logger.handled bound failure,
      Field.IsWritable naming field := by
    refine List.forall_mem_append.mpr ⟨?_, fun field hfield => ?_⟩
    · rintro ⟨name, v⟩ hfield
      obtain ⟨s, rfl⟩ : ∃ s, v = .str s := h.given _ hfield
      exact Field.isWritable_str naming name s
    · rw [Logger.mem_handled hfield]
      exact .inl rfl
  have hinfo : Logger.clash? ["exc_info", "stack_info"] e.given = none :=
    Logger.clash?_of_subset (by simp) h.names
  have hname : Logger.clash? ["method_name"] (e.given ++ Logger.handled bound failure) = none :=
    Logger.clash?_handled (by decide) (Logger.clash?_of_subset (by simp) h.names) bound failure
  have htext : Logger.eventText naming e.event [] = .ok e.event := rfl
  rw [warned, Logger.written_of_text htext hname, Logger.exists_record_iff_bound hgiven]
  refine forall₂_congr fun field hfield => ?_
  rw [Logger.isTaken_handled_iff hinfo, Field.IsWritable]
  rcases hreserved : Logger.isReserved field.1 with _ | _
  · have hne : field.1 ≠ "exc_info" := Logger.ne_of_isReserved hreserved rfl
    rw [List.map_append, List.mem_cons, List.mem_cons, List.mem_append,
      or_iff_left (Logger.not_mem_keys_handled hne bound failure)]
    refine forall_congr' fun _ => ?_
    simp only [true_and, Bool.false_eq_true, false_or]
    rw [or_comm, or_iff_not_imp_left]
  · simp

/-- The record of a warning is that of the emission, as it would be outside a handler. -/
theorem isWarned_of_warned (h : e.IsWarning) {failure : Raised} {r : Record}
    (hwarned : e.warned naming bound failure = .ok r) : e.IsWarned naming bound r := by
  have hwritten : Logger.written naming ⟨e.name, 0⟩ "warning" e.event
      (e.handling bound failure).args bound (e.handling bound failure).fields = .ok r := by
    rw [fields_of_warning (e := e.handling bound failure) h.method]
    change Logger.written naming _ _ _ e.args bound _ = _
    rw [h.args]
    exact hwarned
  have hrecord : (e.handling bound failure).IsWarned naming bound r :=
    isRecord_of_written (fun _ => rfl) hwritten
  exact isWarned_of_handling h hrecord

/-- **A warning can be written** exactly if what is bound around it allows that. -/
theorem warned_cases (h : e.IsWarning) (naming : Naming) (bound : Context.Fields)
    (failure : Raised) :
    (e.IsFree naming bound ∧
        ∃ r, e.warned naming bound failure = .ok r ∧ e.IsWarned naming bound r) ∨
      (¬ e.IsFree naming bound ∧ ∃ f, e.warned naming bound failure = .error f) := by
  have hiff := exists_warned_iff h naming bound failure
  rcases hwarned : e.warned naming bound failure with f | r
  · refine .inr ⟨fun hfree => ?_, f, rfl⟩
    obtain ⟨r, hr⟩ := hiff.mpr hfree
    cases hwarned.symm.trans hr
  · exact .inl ⟨hiff.mp ⟨r, hwarned⟩, r, rfl, isWarned_of_warned h hwarned⟩

end Emission

/-! ## Conversions

A conversion goes on after a failure in two steps: the warning, which takes the text of what was
raised, and the display of the value. Each of them may raise, and the first that does ends it. -/

namespace Converters

variable {naming : Naming} {registry : Converters} {converter : Converter} {v : Value} {r : Raised}

/-- The warning that a converter failed. -/
def failure (naming : Naming) (v : Value) (message : List Char) : Emission where
  name := "logpoint." ++ reporter
  method := "warning"
  event := "converter_failed"
  given := failureFields naming v message

theorem isWarning_failure (naming : Naming) (v : Value) (message : List Char) :
    (failure naming v message).IsWarning where
  method := rfl
  args := rfl
  given := by simp [failure, failureFields]
  names := by
    rw [Logger.clash?_eq_none_iff]
    simp [failure, failureFields]

/-- If what was raised has a text, the report is the warning with that text. -/
theorem report_of_text {message : List Char} (h : r.text naming = .ok message)
    (bound : Context.Fields) :
    report naming bound v r = (failure naming v message).warned naming bound r := by
  rw [report, h]
  rfl

/-- What a conversion does whose converter failed, in a journal. -/
inductive Recovery (naming : Naming) (v : Value) (r : Raised) (j : Journal) :
    Except Raised Value × Journal → Prop where
  /-- the value is shown by its display, and there is one warning -/
  | replaced {message display : List Char} {record : Record}
      (hmessage : r.text naming = .ok message)
      (hfree : (failure naming v message).IsFree naming j.bound)
      (hrecord : (failure naming v message).IsWarned naming j.bound record)
      (hdisplay : v.display naming = .ok display) :
      Recovery naming v r j (.ok (.str (String.ofList display)), j.logged [record])
  /-- the value refuses to be displayed, and that is raised after the warning -/
  | hidden {message : List Char} {record : Record} {f : Fault}
      (hmessage : r.text naming = .ok message)
      (hfree : (failure naming v message).IsFree naming j.bound)
      (hrecord : (failure naming v message).IsWarned naming j.bound record)
      (hdisplay : v.display naming = .error f) :
      Recovery naming v r j (.error (.fault f), j.logged [record])
  /-- the warning cannot be written -/
  | unwritten {message : List Char} {f : Fault} (hmessage : r.text naming = .ok message)
      (hfree : ¬ (failure naming v message).IsFree naming j.bound) :
      Recovery naming v r j (.error (.fault f), j)
  /-- what was raised has no text -/
  | textless {f : Fault} (hmessage : r.text naming = .error f) :
      Recovery naming v r j (.error (.fault f), j)

/-- **A failing converter** is reported, and the value displayed in place of its result, unless one
of the two is not possible: then that is raised. The warning comes first, so it may be there though
the conversion raises. -/
theorem convert_recovery (hnone : ¬ v.isNone = true) (hfind : registry.find v.line = some converter)
    (hmeaning : registry.meaning naming converter v = .error r) (hcaught : r.isCaught = true)
    (j : Journal) : Recovery naming v r j (registry.convert naming v j) := by
  have hshown : registry.shown naming j.bound v = recovered naming j.bound v r := by
    simp only [shown, if_neg hnone, hfind, hmeaning, if_pos hcaught]
  rw [convert_run, hshown, recovered]
  rcases hmessage : r.text naming with f | message
  · have hreport : report naming j.bound v r = .error f := by
      rw [report, hmessage]
      rfl
    rw [hreport]
    simpa using .textless hmessage
  · rw [report_of_text hmessage]
    rcases Emission.warned_cases (isWarning_failure naming v message) naming j.bound r with
      ⟨hfree, record, hwarned, hrecord⟩ | ⟨hfree, f, hwarned⟩
    · rw [hwarned]
      rcases hdisplay : v.display naming with f | display
      · exact .hidden hmessage hfree hrecord hdisplay
      · exact .replaced hmessage hfree hrecord hdisplay
    · rw [hwarned]
      simpa using .unwritten hmessage hfree

end Converters

/-! ## Context variables

Gathering goes on after a failure if that was reported, and is ended by one that cannot be. So the
failures are counted here from the front: all before the first that cannot be reported have their
warning, and none after it has. -/

namespace Context

variable {naming : Naming} {bound fields : Fields} {providers : List Provider}
  {counters : List Nat}

/-- The warning that a provider failed. -/
def failure (key : String) (message : List Char) : Emission where
  name := "logpoint." ++ reporter
  method := "warning"
  event := "context_variable_failed"
  given := [("key", .str key), ("error", .str (String.ofList message))]

theorem isWarning_failure (key : String) (message : List Char) :
    (failure key message).IsWarning where
  method := rfl
  args := rfl
  given := by simp [failure]
  names := by
    rw [Logger.clash?_eq_none_iff]
    simp [failure]

theorem report_of_text {r : Raised} {message : List Char} (h : r.text naming = .ok message)
    (key : String) : report naming bound key r = (failure key message).warned naming bound r := by
  rw [report, h]
  rfl

/-- The providers that fail when they are asked one after the other: the key of each, and what it
raises. -/
def failures : List Provider → List Nat → List (String × Raised)
  | [], _ => []
  | provider :: rest, counters =>
    match provider.answer counters with
    | .ok _ => failures rest (provider.counted counters)
    | .error r => (provider.key, r) :: failures rest (provider.counted counters)

/-- A record is the warning that a provider failed. -/
def ReportsOn (naming : Naming) (bound : Fields) (failed : String × Raised) (record : Record) :
    Prop :=
  ∃ message, failed.2.text naming = .ok message ∧
    (failure failed.1 message).IsFree naming bound ∧
    (failure failed.1 message).IsWarned naming bound record

/-- The warning that a provider failed can be written. -/
def CanReport (naming : Naming) (bound : Fields) (failed : String × Raised) : Prop :=
  ∃ message, failed.2.text naming = .ok message ∧ (failure failed.1 message).IsFree naming bound

/-- What gathering does where some of the providers fail. -/
inductive Collection (naming : Naming) (bound : Fields) (providers : List Provider)
    (fields : Fields) (counters : List Nat) : Gathered → Prop where
  /-- the answers of the others are gathered, and there is a warning for each that failed -/
  | gathered {records : List Record}
      (hrecords : List.Forall₂ (ReportsOn naming bound) (failures providers counters) records) :
      Collection naming bound providers fields counters
        ⟨.ok (overlay fields (answers providers counters)), records, countedAll providers counters⟩
  /-- the first failure that cannot be reported ends it, after the warnings for those before it -/
  | ended {before after : List (String × Raised)} {failed : String × Raised}
      {records : List Record} {f : Fault} {reached : List Nat}
      (hfailures : failures providers counters = before ++ failed :: after)
      (hrecords : List.Forall₂ (ReportsOn naming bound) before records)
      (hfailed : ¬ CanReport naming bound failed) :
      Collection naming bound providers fields counters ⟨.error (.fault f), records, reached⟩

/-- A failure is reported, or that is not possible and a fault: its text is asked for first, and
then the warning is written. -/
theorem report_cases (naming : Naming) (bound : Fields) (key : String) (r : Raised) :
    (∃ record, report naming bound key r = .ok record ∧ ReportsOn naming bound (key, r) record) ∨
      ∃ f, report naming bound key r = .error f ∧ ¬ CanReport naming bound (key, r) := by
  rcases hmessage : r.text naming with f | message
  · refine .inr ⟨f, by rw [report, hmessage]; rfl, ?_⟩
    rintro ⟨message, h, -⟩
    cases hmessage.symm.trans h
  · rw [report_of_text hmessage]
    rcases Emission.warned_cases (isWarning_failure key message) naming bound r with
      ⟨hfree, record, hwarned, hrecord⟩ | ⟨hfree, f, hwarned⟩
    · exact .inl ⟨record, hwarned, message, hmessage, hfree, hrecord⟩
    · refine .inr ⟨f, hwarned, ?_⟩
      rintro ⟨message', h, hfree'⟩
      obtain rfl := Except.ok.inj (hmessage.symm.trans h)
      exact hfree hfree'

/-- A provider that failed and was reported comes before the others. -/
theorem Collection.after_failure {provider : Provider} {r : Raised} {record : Record}
    {others : Gathered} (hanswer : provider.answer counters = .error r)
    (hreports : ReportsOn naming bound (provider.key, r) record)
    (h : Collection naming bound providers fields (provider.counted counters) others) :
    Collection naming bound (provider :: providers) fields counters
      ⟨others.outcome, [record] ++ others.reports, others.counters⟩ := by
  have hfailures : failures (provider :: providers) counters =
      (provider.key, r) :: failures providers (provider.counted counters) := by
    rw [failures, hanswer]
  cases h with
  | gathered hrecords =>
    have hanswers : answers (provider :: providers) counters =
        answers providers (provider.counted counters) := by
      rw [answers, hanswer]
    rw [← hanswers]
    refine .gathered ?_
    rw [hfailures]
    exact .cons hreports hrecords
  | @ended before after failed _ _ _ hsplit hrecords hfailed =>
    have hall : failures (provider :: providers) counters =
        ((provider.key, r) :: before) ++ failed :: after := by
      rw [hfailures, hsplit]
      rfl
    exact .ended hall (.cons hreports hrecords) hfailed

/-- The answer of a provider comes before those of the others. -/
theorem Collection.after_answer {provider : Provider} {v : Value} {others : Gathered}
    (hanswer : provider.answer counters = .ok v)
    (h : Collection naming bound providers
      (if v.isNone then fields else Document.insert provider.key v fields)
      (provider.counted counters) others) :
    Collection naming bound (provider :: providers) fields counters others := by
  have hfailures : failures (provider :: providers) counters =
      failures providers (provider.counted counters) := by
    rw [failures, hanswer]
  cases h with
  | gathered hrecords =>
    have hanswers : overlay fields (answers (provider :: providers) counters) =
        overlay (if v.isNone then fields else Document.insert provider.key v fields)
          (answers providers (provider.counted counters)) := by
      simp only [answers, hanswer]
      split <;> rfl
    rw [← hanswers]
    exact .gathered (hfailures ▸ hrecords)
  | ended hsplit hrecords hfailed => exact .ended (hfailures.trans hsplit) hrecords hfailed

/-- **Failing providers** are left out and reported, as long as that is possible. By induction on
the providers: the one in front answers, or its failure is reported, or that ends it. -/
theorem gather_collection (hcaught : ∀ e ∈ failures providers counters, e.2.isCaught = true) :
    Collection naming bound providers fields counters
      (gather naming bound providers fields counters) := by
  induction providers generalizing fields counters with
  | nil => exact .gathered .nil
  | cons provider providers ih =>
    rcases hanswer : provider.answer counters with r | v
    · have hfailures : failures (provider :: providers) counters =
          (provider.key, r) :: failures providers (provider.counted counters) := by
        rw [failures, hanswer]
      rw [hfailures, List.forall_mem_cons] at hcaught
      obtain ⟨hr, hrest⟩ := hcaught
      rcases report_cases naming bound provider.key r with
        ⟨record, hreport, hreports⟩ | ⟨f, hreport, hcannot⟩
      · simp only [gather, gatherOne, hanswer, if_pos hr, hreport]
        exact (ih hrest).after_failure hanswer hreports
      · simp only [gather, gatherOne, hanswer, if_pos hr, hreport]
        have hsplit : failures (provider :: providers) counters =
            [] ++ (provider.key, r) :: failures providers (provider.counted counters) := hfailures
        exact .ended hsplit .nil hcannot
    · have hfailures : failures (provider :: providers) counters =
          failures providers (provider.counted counters) := by
        rw [failures, hanswer]
      rw [hfailures] at hcaught
      simp only [gather, gatherOne, hanswer, List.nil_append]
      exact (ih hcaught).after_answer hanswer

end Context

/-! ## What gets past the handlers

A failure that can be reported does not get past the handlers. Whether it can is decided by its text
and by what is bound around, and for a conversion by the display of the value as well. -/

/-- What a conversion does whose converter failed, in a journal, and when it gives a value. -/
structure Converters.Reported (naming : Naming) (registry : Converters) (v : Value) (r : Raised)
    (j : Journal) : Prop where
  recovery : Recovery naming v r j (registry.convert naming v j)
  /-- it gives one exactly if the warning can be written and the value can be displayed -/
  gives_iff : (∃ w, (registry.convert naming v j).1 = .ok w) ↔
    (∃ message, r.text naming = .ok message ∧ (failure naming v message).IsFree naming j.bound) ∧
      ∃ display, v.display naming = .ok display

/-- What collecting does, in a journal, and when it gives fields. -/
structure Context.Reported (naming : Naming) (providers : List Provider) (j : Journal) : Prop where
  collection : ∃ gathered, Collection naming j.bound providers [] j.counters gathered ∧
    collect naming providers j =
      (gathered.outcome, (j.logged gathered.reports).counted gathered.counters)
  /-- it gives them exactly if all failures can be reported -/
  gives_iff : (∃ fields, (collect naming providers j).1 = .ok fields) ↔
    ∀ failed ∈ failures providers j.counters, CanReport naming j.bound failed

namespace Converters

variable {naming : Naming} {registry : Converters} {converter : Converter} {v : Value} {r : Raised}

theorem Recovery.gives_iff {j : Journal} {run : Except Raised Value × Journal}
    (h : Recovery naming v r j run) : (∃ w, run.1 = .ok w) ↔
      (∃ message, r.text naming = .ok message ∧ (failure naming v message).IsFree naming j.bound) ∧
        ∃ display, v.display naming = .ok display := by
  cases h with
  | replaced hmessage hfree hrecord hdisplay =>
    exact ⟨fun _ => ⟨⟨_, hmessage, hfree⟩, _, hdisplay⟩, fun _ => ⟨_, rfl⟩⟩
  | hidden hmessage hfree hrecord hdisplay =>
    refine ⟨fun ⟨w, hw⟩ => (by cases hw), fun ⟨_, display, h⟩ => ?_⟩
    cases hdisplay.symm.trans h
  | unwritten hmessage hfree =>
    refine ⟨fun ⟨w, hw⟩ => (by cases hw), fun ⟨⟨message, h, hfree'⟩, _⟩ => ?_⟩
    obtain rfl := Except.ok.inj (hmessage.symm.trans h)
    exact absurd hfree' hfree
  | textless hmessage =>
    refine ⟨fun ⟨w, hw⟩ => (by cases hw), fun ⟨⟨message, h, _⟩, _⟩ => ?_⟩
    cases hmessage.symm.trans h

end Converters

namespace Context

variable {naming : Naming} {bound fields : Fields} {providers : List Provider}
  {counters : List Nat}

theorem ReportsOn.canReport {failed : String × Raised} {record : Record}
    (h : ReportsOn naming bound failed record) : CanReport naming bound failed := by
  obtain ⟨message, hmessage, hfree, -⟩ := h
  exact ⟨message, hmessage, hfree⟩

theorem Collection.gives_iff {g : Gathered}
    (h : Collection naming bound providers fields counters g) :
    (∃ fields, g.outcome = .ok fields) ↔
      ∀ failed ∈ failures providers counters, CanReport naming bound failed := by
  cases h with
  | gathered hrecords =>
    have hboth : List.Forall₂ (fun failed record =>
        CanReport naming bound failed ∧ ReportsOn naming bound failed record)
        (failures providers counters) _ := hrecords.imp fun _ _ h => ⟨h.canReport, h⟩
    obtain ⟨hcan, -⟩ := (List.forall₂_and_left _ _).mp hboth
    exact ⟨fun _ => hcan, fun _ => ⟨_, rfl⟩⟩
  | ended hsplit hrecords hfailed =>
    refine ⟨fun ⟨_, h⟩ => (by cases h), fun h => absurd (h _ ?_) hfailed⟩
    rw [hsplit]
    simp

end Context

/-- **Failing collaborators are reported**, and nothing that they raise gets past the handlers; but
what the handlers ask for themselves does. Both parts say exactly when, for all that could be
registered. -/
theorem Journal.collaborators_reported (naming : Naming) (j : Journal) :
    (∀ (registry : Converters) (v : Value) (converter : Converter) (r : Raised),
      ¬ v.isNone = true → registry.find v.line = some converter →
      registry.meaning naming converter v = .error r → r.isCaught = true →
      registry.Reported naming v r j) ∧
    ∀ providers : List Provider,
      (∀ failed ∈ Context.failures providers j.counters, failed.2.isCaught = true) →
      Context.Reported naming providers j := by
  constructor
  · intro registry v converter r hnone hfind hmeaning hcaught
    have hrecovery := Converters.convert_recovery hnone hfind hmeaning hcaught j
    exact ⟨hrecovery, hrecovery.gives_iff⟩
  · intro providers hcaught
    have hcollection : Context.Collection naming j.bound providers [] j.counters
        (Context.gather naming j.bound providers [] j.counters) := Context.gather_collection hcaught
    have hrun := Context.collect_run naming providers [] j
    refine ⟨⟨_, hcollection, hrun⟩, ?_⟩
    rw [Context.collect, hrun]
    exact hcollection.gives_iff

theorem Journal.collaborators_reported_failing :
    (∃ w, (Converters.convert .empty
        (.ofList [(.ofKnown .bool, .raises (.known .valueError) [.str "no"])]) (.bool true) {}).1 =
      .ok w) ∧
    ∃ fields, (Context.collect .empty
        [⟨"k", .raises (.known .valueError) [.str "no"]⟩, ⟨"a", .const (.int 1)⟩] {}).1 =
      .ok fields := by
  obtain ⟨hconvert, hcollect⟩ := Journal.collaborators_reported .empty {}
  have hreported := hconvert (.ofList [(.ofKnown .bool, .raises (.known .valueError) [.str "no"])])
    (.bool true) _ (.made (.known .valueError) [.str "no"]) (by decide) rfl rfl rfl
  have hfailures : Context.failures
      [⟨"k", .raises (.known .valueError) [.str "no"]⟩, ⟨"a", .const (.int 1)⟩] [] =
        [("k", .made (.known .valueError) [.str "no"])] := rfl
  have hcollected := hcollect
    [⟨"k", .raises (.known .valueError) [.str "no"]⟩, ⟨"a", .const (.int 1)⟩]
    (by rw [hfailures, List.forall_mem_singleton]; rfl)
  refine ⟨hreported.gives_iff.mpr ⟨⟨_, rfl, nofun⟩, _, rfl⟩, hcollected.gives_iff.mpr ?_⟩
  rw [hfailures, List.forall_mem_singleton]
  exact ⟨_, rfl, nofun⟩

/-- **A value that refuses to be displayed** gets past the handlers: where its converter fails, and
where an exception holds it that a context variable raises. -/
theorem Journal.mute_escapes :
    (Converters.convert .empty
        (.ofList [(.ofKnown .mute, .raises (.known .valueError) [.str "no"])])
        (.specimen .mute (.int 1)) {}).1 = .error (.fault .noDisplay) ∧
    (Context.collect .empty
        [⟨"k", .raises (.known .valueError) [.specimen .mute (.int 1)]⟩] {}).1 =
      .error (.fault .noDisplay) :=
  ⟨rfl, rfl⟩

end CallLog
